import HelpCovid.ChunkMap.GlobalMap
import HelpCovid.ChunkMap.Layout

/-!
# The names of chunks

Every name the parser binds is a letter followed by letters, digits and
underscores, of at most 60 characters, and so is every name of the global map.
-/

namespace HelpCovid.ChunkMap

open CText

/-- What a chunk can be called. -/
structure IsChunkName (name : Text) : Prop where
  ident : isIdent name = true
  short : name.length ≤ 60

theorem IsChunkName.startsAlpha {name : Text} (h : IsChunkName name) : startsAlpha name = true := by
  have hident := h.ident
  cases name with
  | nil => exact absurd hident (by decide)
  | cons c cs =>
      simp only [isIdent, Bool.and_eq_true] at hident
      exact hident.1

/-- A name scanned from a header line, whose second character is a letter. -/
theorem isChunkName_of_scan {linbuf rest name tail : Text} (hstart : startsHeader linbuf = true)
    (hlit : literal ['!'] (cstr linbuf) = some rest)
    (hscan : scanSet 60 isNameChar rest = some (name, tail)) : IsChunkName name := by
  have hcut := eq_append_of_literal hlit
  rcases scanSet_spec hscan with ⟨hsplit, hne, hname⟩
  rcases List.exists_cons_of_ne_nil hne with ⟨c, cs, rfl⟩
  have hc : c.isAlpha = true := by
    simp only [startsHeader, Bool.and_eq_true] at hstart
    cases linbuf with
    | nil => exact absurd hcut (by simp [cstr])
    | cons bang linbuf =>
        cases linbuf with
        | nil => exact absurd hstart.2 (by simp [ChunkMap.startsAlpha])
        | cons d linbuf =>
            have hd : d.isAlpha = true := by simpa [ChunkMap.startsAlpha] using hstart.2
            have hdnul : d ≠ '\x00' := by
              rintro rfl
              exact absurd hd (by decide)
            -- neither `!` nor the letter ends the C string
            have hbang : bang = '!' := by simpa using hstart.1.2
            have hcstr : cstr (bang :: d :: linbuf) = bang :: d :: cstr linbuf := by
              rw [hbang, cstr_cons (by decide), cstr_cons hdnul]
            rw [hcstr, hsplit] at hcut
            have hsecond := congrArg (fun l => l[1]?) hcut
            obtain rfl : d = c := by simpa using hsecond
            exact hd
  refine ⟨?_, length_le_of_scanSet hscan⟩
  simp only [isIdent, hc, Bool.true_and, List.all_eq_true]
  exact fun d hd => hname d (List.mem_cons_of_mem _ hd)

/-- The parser has bound good names only, and is in a chunk with a good name. -/
structure NamesGood (p : Parser) : Prop where
  bound : ∀ name ∈ p.resultmap, IsChunkName name
  current : p.state = .insideChunk → IsChunkName p.chunkname

theorem headerLine_namesGood {lincnt : Nat} {linbuf : Text} {p p' : Parser} (hp : NamesGood p)
    (h : headerLine lincnt linbuf p = .ok p') : NamesGood p' := by
  unfold headerLine at h
  split at h
  · next hstart =>
      split at h
      · next chunkname chunkbody hscan =>
          obtain rfl := Except.ok.inj h
          simp only [scanSingleHeader, Option.bind_eq_bind, Option.bind_eq_some_iff,
            Option.pure_def, Option.some.injEq, Prod.exists] at hscan
          rcases hscan with ⟨rest, hlit, name, tail, hname, tail', -, hpair⟩
          obtain rfl : name = chunkname := (Prod.mk.inj hpair).1
          refine ⟨?_, fun hstate => ChunkState.noConfusion hstate⟩
          intro m hm
          rcases (StdMap.mem_insertIfNew_iff _ _).mp hm with rfl | hm
          · exact isChunkName_of_scan hstart hlit hname
          · exact hp.bound m hm
      · split at h
        · next chunkname endstrbuf rest hscan =>
            split at h
            · obtain rfl := Except.ok.inj h
              simp only [scanMultiHeader, Option.bind_eq_bind, Option.bind_eq_some_iff,
                Option.pure_def, Option.some.injEq, Prod.exists] at hscan
              rcases hscan with
                ⟨rest, hlit, name, tail, hname, tail₁, -, label, tail₂, -, tail₃, -, hpair⟩
              obtain rfl : name = chunkname := (Prod.mk.inj hpair).1
              exact ⟨hp.bound, fun _ => isChunkName_of_scan hstart hlit hname⟩
            · exact absurd h (by simp)
        · exact absurd h (by simp)
  · exact absurd h (by simp)

theorem parseLine_namesGood {filepath : Text} {lincnt : Nat} {linbuf : Text} {p p' : Parser}
    (hp : NamesGood p) (h : parseLine filepath lincnt linbuf p = .ok p') : NamesGood p' := by
  cases hstate : p.state with
  | none =>
      simp only [parseLine, hstate] at h
      exact absurd h (by simp)
  | insideChunk =>
      rw [parseLine_insideChunk _ _ _ hstate] at h
      obtain rfl := Except.ok.inj h
      exact ⟨hp.bound, fun _ => hp.current hstate⟩
  | headerLine =>
      simp only [parseLine, hstate] at h
      exact headerLine_namesGood hp h
  | skipSpaces =>
      have hclear : ∀ state, state ≠ .insideChunk →
          NamesGood { p with state := state, chunkname := [], chunkbody := [] } :=
        fun state hne => ⟨hp.bound, fun hin => absurd hin hne⟩
      have hskip := hclear p.state (by rw [hstate]; exact ChunkState.noConfusion)
      simp only [parseLine, hstate] at h hskip
      split at h
      · exact Except.ok.inj h ▸ hskip
      · split at h
        · exact Except.ok.inj h ▸ hskip
        · split at h
          · exact Except.ok.inj h ▸ hskip
          · split at h
            · exact headerLine_namesGood (hclear .headerLine ChunkState.noConfusion) h
            · exact absurd h (by simp)

theorem parseLines_namesGood {filepath : Text} {lincnt off : Nat} {ls : List Text}
    {p p' : Parser} (hp : NamesGood p) (h : parseLines filepath lincnt off ls p = .ok p') :
    NamesGood p' := by
  induction ls generalizing lincnt off p with
  | nil =>
      obtain rfl := Except.ok.inj h
      exact hp
  | cons linbuf rest ih =>
      rw [parseLines] at h
      split at h
      · exact absurd h (by simp)
      · split at h
        · exact absurd h (by simp)
        · split at h
          · exact absurd h (by simp)
          · next p₁ hline => exact ih (parseLine_namesGood hp hline) h

/-- The names of a parsed file. -/
theorem isChunkName_of_parseChunkMap {fs : Text → Option Text} {filepath : Text}
    {m : StdMap Text Text} (h : parseChunkMap fs filepath = .ok m) :
    ∀ name ∈ m, IsChunkName name := by
  unfold parseChunkMap at h
  split at h
  · exact absurd h (by simp)
  · split at h
    · exact absurd h (by simp)
    · next contents hread p hparse =>
        obtain rfl := Except.ok.inj h
        refine (parseLines_namesGood ⟨?_, ?_⟩ hparse).bound
        · intro name hname
          exact absurd hname (by simp [Parser.start])
        · intro hstate
          exact ChunkState.noConfusion hstate

/-- The names of the global map, once files were added to it. -/
theorem isChunkName_of_addChunkmapFiles {fs : Text → Option Text} {paths : List Text}
    {glob : StdMap Text Text} (h : paths.foldlM (addChunkmapFile fs) ∅ = .ok glob) :
    ∀ name ∈ glob, IsChunkName name := by
  intro name hname
  have hsome := Std.ExtTreeMap.mem_iff_isSome_getElem?.mp hname
  rw [(addChunkmapFiles paths ∅).2 glob h name] at hsome
  have hfound : ((paths.findSome? (bodyIn fs name))).isSome = true := by simpa using hsome
  rcases Option.isSome_iff_exists.mp hfound with ⟨body, hbody⟩
  rcases List.exists_of_findSome?_eq_some hbody with ⟨path, -, hpath⟩
  unfold bodyIn at hpath
  split at hpath
  · exact absurd hpath (by simp)
  · next m hparse =>
      apply isChunkName_of_parseChunkMap hparse
      rw [Std.ExtTreeMap.mem_iff_isSome_getElem?, hpath]
      rfl

end HelpCovid.ChunkMap
