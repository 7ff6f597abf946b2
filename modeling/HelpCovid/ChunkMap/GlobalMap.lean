import HelpCovid.ChunkMap.Parser

/-!
# The global chunk map

`hcv_add_chunkmap_file` parses one customization file and merges its chunks into
`hcv_globchunk_map`; `main` calls it for each file of the configuration, in
order, before the server starts. `hcv_get_chunkmap_entry` looks a name up.
-/

namespace HelpCovid.ChunkMap

open CText

/-- The fatal errors of `hcv_add_chunkmap_file`. -/
inductive AddFatal where
  | emptyPath
  | unreadable (filepath : Text)
  | badPathEnding (filepath : Text)
  | parse (error : Fatal)
deriving Repr, DecidableEq

/-- `isalnum` of the last character of a path. -/
def endsAlnum (filepath : Text) : Bool := filepath.getLast?.any Char.isAlphanum

/-- `hcv_add_chunkmap_file`: the global map after it. -/
def addChunkmapFile (fs : Text → Option Text) (globchunkMap : StdMap Text Text)
    (filepath : Text) : Except AddFatal (StdMap Text Text) :=
  if filepath.isEmpty then .error .emptyPath
  else if (fs filepath).isNone then .error (.unreadable filepath)
  else if !endsAlnum filepath then .error (.badPathEnding filepath)
  else match parseChunkMap fs filepath with
    | .error e => .error (.parse e)
    | .ok gotmap => .ok (globchunkMap.merge gotmap)

/-- `hcv_get_chunkmap_entry`: a missing entry is the empty string. -/
def getChunkmapEntry (globchunkMap : StdMap Text Text) (chunkname : Text) : Text :=
  if chunkname.isEmpty then [] else (globchunkMap[chunkname]?).getD []

/-- A file that can be added: a path that ends well, and contents the parser
accepts. -/
structure Addable (fs : Text → Option Text) (filepath : Text) : Prop where
  ending : endsAlnum filepath = true
  parses : ∃ gotmap, parseChunkMap fs filepath = .ok gotmap

/-- What a file binds a name to; a file that does not parse binds nothing. -/
def bodyIn (fs : Text → Option Text) (name filepath : Text) : Option Text :=
  match parseChunkMap fs filepath with
  | .error _ => none
  | .ok gotmap => gotmap[name]?

section AddFiles

variable {fs : Text → Option Text}

theorem Addable.readable {filepath : Text} (h : Addable fs filepath) :
    filepath ≠ [] ∧ (fs filepath).isSome = true := by
  constructor
  · rintro rfl
    exact absurd h.ending (by decide)
  · rcases h.parses with ⟨gotmap, hparse⟩
    cases hfile : fs filepath with
    | none => simp [parseChunkMap, hfile] at hparse
    | some contents => rfl

/-- Adding a file merges what it binds. -/
theorem addChunkmapFile_eq_ok_iff {glob glob' : StdMap Text Text} {filepath : Text} :
    addChunkmapFile fs glob filepath = .ok glob' ↔
      endsAlnum filepath = true ∧
        ∃ gotmap, parseChunkMap fs filepath = .ok gotmap ∧ glob' = glob.merge gotmap := by
  constructor
  · intro h
    unfold addChunkmapFile at h
    split at h
    · exact absurd h (by simp)
    · split at h
      · exact absurd h (by simp)
      · split at h
        · exact absurd h (by simp)
        · next hend =>
            split at h
            · exact absurd h (by simp)
            · next gotmap hparse =>
                exact ⟨by simpa using hend, gotmap, hparse, (Except.ok.inj h).symm⟩
  · rintro ⟨hend, gotmap, hparse, rfl⟩
    rcases Addable.readable ⟨hend, gotmap, hparse⟩ with ⟨hne, hfile⟩
    have hsome : (fs filepath).isNone = false := by
      rw [Option.isNone_eq_false_iff]
      exact hfile
    have hpath : filepath.isEmpty = false := by simpa using hne
    simp [addChunkmapFile, hpath, hsome, hend, hparse]

/-- Files added one after the other: which lists can be added, and what is bound
then. The map found at the start takes precedence. -/
theorem addChunkmapFiles (paths : List Text) (glob : StdMap Text Text) :
    ((∃ glob', paths.foldlM (addChunkmapFile fs) glob = .ok glob') ↔
      ∀ path ∈ paths, Addable fs path) ∧
    ∀ glob', paths.foldlM (addChunkmapFile fs) glob = .ok glob' →
      ∀ name, glob'[name]? = (glob[name]?).or (paths.findSome? (bodyIn fs name)) := by
  induction paths generalizing glob with
  | nil =>
      refine ⟨⟨fun _ path hpath => absurd hpath (by simp), fun _ => ⟨glob, rfl⟩⟩, ?_⟩
      intro glob' h name
      obtain rfl := Except.ok.inj h
      simp
  | cons path paths ih =>
      rw [List.foldlM_cons]
      cases hadd : addChunkmapFile fs glob path with
      | error e =>
          have hnot : ¬ Addable fs path := by
            rintro ⟨hend, gotmap, hparse⟩
            have hok : addChunkmapFile fs glob path = .ok (glob.merge gotmap) :=
              addChunkmapFile_eq_ok_iff.mpr ⟨hend, gotmap, hparse, rfl⟩
            rw [hadd] at hok
            exact absurd hok (by simp)
          refine ⟨⟨?_, fun h => absurd (h path (by simp)) hnot⟩, ?_⟩
          · rintro ⟨glob', h⟩
            exact absurd h (by simp [bind, Except.bind])
          · intro glob' h
            exact absurd h (by simp [bind, Except.bind])
      | ok glob₁ =>
          show ((∃ glob', paths.foldlM (addChunkmapFile fs) glob₁ = .ok glob') ↔ _) ∧
            ∀ glob', paths.foldlM (addChunkmapFile fs) glob₁ = .ok glob' → _
          rcases addChunkmapFile_eq_ok_iff.mp hadd with ⟨hend, gotmap, hparse, rfl⟩
          refine ⟨?_, ?_⟩
          · rw [(ih _).1, List.forall_mem_cons]
            exact (and_iff_right ⟨hend, gotmap, hparse⟩).symm
          · intro glob' h name
            have hbody : bodyIn fs name path = gotmap[name]? := by simp only [bodyIn, hparse]
            rw [(ih _).2 glob' h name, StdMap.getElem?_merge, List.findSome?_cons, hbody,
              Option.or_assoc]
            cases gotmap[name]? <;> rfl

end AddFiles

end HelpCovid.ChunkMap
