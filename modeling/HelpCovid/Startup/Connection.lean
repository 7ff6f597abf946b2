import HelpCovid.Lib.Machine
import HelpCovid.Views.Catalogue

/-!
# Connection strings

`backup-database.py` and `generate-config.py` take the parts of a connection string
by position: the first word for the database, the second for the user, and so on.
Both cut a word at each `=`. `Positional` says for which strings this gives the
values of the keys.
-/

namespace HelpCovid.Startup

open CText Views

/-! ## The scripts -/

/-- `split[i].split("=")[1]` -/
def cutAt (split : List Text) (i : Nat) : Except PyError Text := do
  let word ← index split i
  index (PyText.split ['='] word) 1

/-- The dictionary that `backup` gets. -/
structure BackupKeys where
  dbname : Text
  user : Text
  password : Text
  host : Text
  port : Text
deriving Repr, DecidableEq

/-- `parse_connection_string` -/
def parseConnectionString (connstr : Text) : Except PyError BackupKeys := do
  let split ← index (PyText.splitOnce '=' connstr) 1
  let split := PyText.words split
  let dbname ← index split 0
  let user ← cutAt split 1
  let password ← cutAt split 2
  let host ← cutAt split 3
  let port ← cutAt split 4
  return ⟨dbname, user, password, host, port⟩

/-- What the generator keeps of the connection. -/
structure ConnectionKeys where
  database : Text
  user : Text
  password : Text
deriving Repr, DecidableEq

/-- `write_connection_keys` -/
def writeConnectionKeys (conn : Text) : Except PyError ConnectionKeys := do
  let split := PyText.words conn
  let database ← cutAt split 0
  let user ← cutAt split 1
  let password ← cutAt split 2
  return ⟨database, user, password⟩

/-! ## What is asked for -/

/-- `key=value` -/
def render (e : Text × Text) : Text := e.1 ++ '=' :: e.2

/-- The keys of a connection. -/
def connectionKeys : List Text :=
  ["dbname".toList, "user".toList, "password".toList, "hostaddr".toList, "port".toList]

/-- A text whose words are `key=value`, with all keys of a connection. -/
structure ConnectionString where
  text : Text
  pairs : List (Text × Text)
  words : PyText.words text = pairs.map render
  keys : ∀ e ∈ pairs, '=' ∉ e.1
  has : ∀ key ∈ connectionKeys, ∃ v, (key, v) ∈ pairs

namespace ConnectionString

variable (c : ConnectionString)

/-- `t` is the whole text after the `=` of the key. -/
def IsValue (key : String) (t : Text) : Prop := ∀ v, (key.toList, v) ∈ c.pairs → t = v

/-- Both scripts take the values of the keys they use. -/
structure ReadByKey : Prop where
  backup : ∃ keys, parseConnectionString c.text = .ok keys ∧ c.IsValue "dbname" keys.dbname ∧
    c.IsValue "user" keys.user ∧ c.IsValue "password" keys.password ∧
    c.IsValue "hostaddr" keys.host ∧ c.IsValue "port" keys.port
  generator : ∃ keys, writeConnectionKeys c.text = .ok keys ∧ c.IsValue "dbname" keys.database ∧
    c.IsValue "user" keys.user ∧ c.IsValue "password" keys.password

/-- What is before the first `=` of a value. -/
def cut (v : Text) : Text := v.takeWhile (· != '=')

/-- The words stand in the order the scripts have in mind: the first value is that of
the database, not empty and without `=`, and the next ones begin with those of the
other keys, up to a `=`. -/
def Positional : Prop :=
  ∃ e₀ e₁ e₂ e₃ e₄ rest, c.pairs = e₀ :: e₁ :: e₂ :: e₃ :: e₄ :: rest ∧
    (e₀.2 ≠ [] ∧ '=' ∉ e₀.2 ∧ c.IsValue "dbname" e₀.2) ∧ c.IsValue "user" (cut e₁.2) ∧
    c.IsValue "password" (cut e₂.2) ∧ c.IsValue "hostaddr" (cut e₃.2) ∧
    c.IsValue "port" (cut e₄.2)

/-! ## The words -/

theorem cut_eq_self_iff {v : Text} : cut v = v ↔ '=' ∉ v := by
  rw [cut, List.takeWhile_eq_self_iff]
  constructor
  · intro h hmem
    exact absurd (h '=' hmem) (by decide)
  · intro h x hx
    exact bne_iff_ne.mpr fun heq => h (heq ▸ hx)

/-- The value of the word in a place, cut. -/
def placed (pairs : List (Text × Text)) (i : Nat) : Except PyError Text :=
  match pairs[i]? with
  | none => .error .indexError
  | some e => .ok (cut e.2)

theorem index_eq_ok {l : List Text} {i : Nat} {t : Text} (h : l[i]? = some t) :
    index l i = .ok t := by
  rw [index, h]

theorem cutAt_map_render {pairs : List (Text × Text)} (hkeys : ∀ e ∈ pairs, '=' ∉ e.1) (i : Nat) :
    cutAt (pairs.map render) i = placed pairs i := by
  unfold cutAt placed
  cases he : pairs[i]? with
  | none =>
    have hmissing : index (pairs.map render) i = .error .indexError := by
      rw [index, List.getElem?_map, he]
      rfl
    rw [hmissing]
    rfl
  | some e =>
    have hword : index (pairs.map render) i = .ok (render e) := by
      apply index_eq_ok
      rw [List.getElem?_map, he]
      rfl
    have hkey : '=' ∉ e.1 := hkeys e (List.mem_of_getElem? he)
    have hvalue : index (PyText.split ['='] (render e)) 1 = .ok (cut e.2) :=
      index_eq_ok (PyText.getElem?_one_split_singleton hkey e.2)
    rw [hword]
    exact hvalue

theorem placed_eq_ok_iff {pairs : List (Text × Text)} {i : Nat} {t : Text} :
    placed pairs i = .ok t ↔ ∃ e, pairs[i]? = some e ∧ cut e.2 = t := by
  unfold placed
  cases pairs[i]? with
  | none => simp
  | some e => simp

/-- The first `=` of the text is the one of the first word. -/
theorem words_after {e : Text × Text} {rest : List (Text × Text)} (h : c.pairs = e :: rest) :
    ∃ front after, PyText.splitOnce '=' c.text = [front, after] ∧
      PyText.words after = (if e.2 = [] then [] else [e.2]) ++ rest.map render := by
  have hwords : PyText.words c.text = render e :: rest.map render := by
    rw [c.words, h, List.map_cons]
  have hfirst : PyText.IsFirstWord c.text (render e) := by
    rw [← PyText.head?_words_eq_some_iff, hwords, List.head?_cons]
  rcases hfirst with ⟨gap, tail, htext, hgap, hne, hword, htail⟩
  have hrest : PyText.words tail = rest.map render := by
    rw [htext, PyText.words_append_of_gap hgap, PyText.words_append htail,
      PyText.words_of_word hne hword] at hwords
    exact (List.cons.inj hwords).2
  have hkey : '=' ∉ gap ++ e.1 := by
    rw [List.mem_append, not_or]
    refine ⟨fun hmem => absurd (hgap '=' hmem) (by decide), c.keys e ?_⟩
    rw [h]
    exact List.mem_cons_self
  have hsplit : c.text = (gap ++ e.1) ++ '=' :: (e.2 ++ tail) := by
    rw [htext, render]
    simp
  have hvalue : PyText.words e.2 = if e.2 = [] then [] else [e.2] := by
    by_cases hnil : e.2 = []
    · rw [if_pos hnil, hnil]
      rfl
    · rw [if_neg hnil]
      refine PyText.words_of_word hnil fun x hx => hword x ?_
      exact List.mem_append_right _ (List.mem_cons_of_mem _ hx)
  refine ⟨gap ++ e.1, e.2 ++ tail, ?_, ?_⟩
  · rw [hsplit, PyText.splitOnce_append hkey]
  · rw [PyText.words_append htail, hvalue, hrest]

/-! ## What the scripts take -/

/-- The generator takes the first three words. -/
theorem writeConnectionKeys_eq_ok_iff {keys : ConnectionKeys} :
    writeConnectionKeys c.text = .ok keys ↔
      placed c.pairs 0 = .ok keys.database ∧ placed c.pairs 1 = .ok keys.user ∧
        placed c.pairs 2 = .ok keys.password := by
  simp only [writeConnectionKeys, c.words, cutAt_map_render c.keys]
  constructor
  · intro h
    rcases Machine.ok_of_bind h with ⟨database, hdatabase, h⟩
    rcases Machine.ok_of_bind h with ⟨user, huser, h⟩
    rcases Machine.ok_of_bind h with ⟨password, hpassword, h⟩
    obtain rfl := Except.ok.inj h
    exact ⟨hdatabase, huser, hpassword⟩
  · rintro ⟨hdatabase, huser, hpassword⟩
    rw [hdatabase, huser, hpassword]
    rfl

/-- The backup takes five words of the text after the first `=`, the first of them
whole. -/
theorem parseConnectionString_of_splitOnce {text front after : Text}
    (hsplit : PyText.splitOnce '=' text = [front, after]) {keys : BackupKeys} :
    parseConnectionString text = .ok keys ↔
      index (PyText.words after) 0 = .ok keys.dbname ∧
        cutAt (PyText.words after) 1 = .ok keys.user ∧
        cutAt (PyText.words after) 2 = .ok keys.password ∧
        cutAt (PyText.words after) 3 = .ok keys.host ∧
        cutAt (PyText.words after) 4 = .ok keys.port := by
  have hparse : parseConnectionString text = (do
      let dbname ← index (PyText.words after) 0
      let user ← cutAt (PyText.words after) 1
      let password ← cutAt (PyText.words after) 2
      let host ← cutAt (PyText.words after) 3
      let port ← cutAt (PyText.words after) 4
      return ⟨dbname, user, password, host, port⟩) := by
    unfold parseConnectionString
    rw [hsplit]
    rfl
  rw [hparse]
  constructor
  · intro h
    rcases Machine.ok_of_bind h with ⟨dbname, hdbname, h⟩
    rcases Machine.ok_of_bind h with ⟨user, huser, h⟩
    rcases Machine.ok_of_bind h with ⟨password, hpassword, h⟩
    rcases Machine.ok_of_bind h with ⟨host, hhost, h⟩
    rcases Machine.ok_of_bind h with ⟨port, hport, h⟩
    obtain rfl := Except.ok.inj h
    exact ⟨hdbname, huser, hpassword, hhost, hport⟩
  · rintro ⟨hdbname, huser, hpassword, hhost, hport⟩
    rw [hdbname, huser, hpassword, hhost, hport]
    rfl

/-- The backup takes the whole first value, unless it is empty, and the next four
words. -/
theorem parseConnectionString_eq_ok_iff {e : Text × Text} {rest : List (Text × Text)}
    (h : c.pairs = e :: rest) (hne : e.2 ≠ []) {keys : BackupKeys} :
    parseConnectionString c.text = .ok keys ↔
      e.2 = keys.dbname ∧ placed c.pairs 1 = .ok keys.user ∧ placed c.pairs 2 = .ok keys.password ∧
        placed c.pairs 3 = .ok keys.host ∧ placed c.pairs 4 = .ok keys.port := by
  rcases c.words_after h with ⟨front, after, hsplit, hwords⟩
  have hkeys : ∀ e' ∈ rest, '=' ∉ e'.1 := by
    intro e' he'
    apply c.keys
    rw [h]
    exact List.mem_cons_of_mem _ he'
  rw [if_neg hne] at hwords
  have hdbname : index ([e.2] ++ rest.map render) 0 = .ok e.2 := rfl
  have hplace : ∀ i, cutAt ([e.2] ++ rest.map render) (i + 1) = placed c.pairs (i + 1) := by
    intro i
    rw [h]
    exact cutAt_map_render hkeys i
  rw [parseConnectionString_of_splitOnce hsplit, hwords, hdbname, hplace 0, hplace 1, hplace 2,
    hplace 3, Except.ok.injEq]

/-- An empty first value is skipped: the database is then the second word. -/
theorem dbname_of_empty {e : Text × Text} {rest : List (Text × Text)} (h : c.pairs = e :: rest)
    (hnil : e.2 = []) {keys : BackupKeys} (hkeys : parseConnectionString c.text = .ok keys) :
    keys.dbname ≠ [] := by
  rcases c.words_after h with ⟨front, after, hsplit, hwords⟩
  rw [if_pos hnil, List.nil_append] at hwords
  rcases (parseConnectionString_of_splitOnce hsplit).mp hkeys with ⟨hdbname, -⟩
  rw [hwords] at hdbname
  intro hempty
  cases rest with
  | nil => cases hdbname
  | cons e' rest =>
      have hsecond : render e' = [] := (Except.ok.inj hdbname).trans hempty
      exact List.append_ne_nil_of_right_ne_nil _ (List.cons_ne_nil _ _) hsecond

/-- Five places with a word. -/
theorem exists_five {pairs : List (Text × Text)} {e₀ e₁ e₂ e₃ e₄ : Text × Text}
    (h₀ : pairs[0]? = some e₀) (h₁ : pairs[1]? = some e₁) (h₂ : pairs[2]? = some e₂)
    (h₃ : pairs[3]? = some e₃) (h₄ : pairs[4]? = some e₄) :
    pairs = e₀ :: e₁ :: e₂ :: e₃ :: e₄ :: pairs.drop 5 := by
  match pairs, h₀, h₁, h₂, h₃, h₄ with
  | _ :: _ :: _ :: _ :: _ :: _, rfl, rfl, rfl, rfl, rfl => rfl

/-- **Exactness.** Both scripts read the string by its keys exactly when the words are
in their places. -/
theorem readByKey_iff : c.ReadByKey ↔ c.Positional := by
  rcases c.has "dbname".toList List.mem_cons_self with ⟨dbname, hdbname⟩
  constructor
  · intro hread
    rcases hread.backup with ⟨keys, hparse, hdb, huser, hpassword, hhost, hport⟩
    rcases hread.generator with ⟨gen, hwrite, hgendb, -, -⟩
    rcases c.writeConnectionKeys_eq_ok_iff.mp hwrite with ⟨hplace₀, -, -⟩
    rcases placed_eq_ok_iff.mp hplace₀ with ⟨e₀, he₀, hcut₀⟩
    rcases List.head?_eq_some_iff.mp (List.head?_eq_getElem?.trans he₀) with ⟨rest, hpairs⟩
    have hgen : cut e₀.2 = dbname := hcut₀.trans (hgendb dbname hdbname)
    by_cases hnil : e₀.2 = []
    · -- the generator takes the empty text, the backup the next word
      have hempty : keys.dbname = [] := by
        rw [hdb dbname hdbname, ← hgen, hnil]
        rfl
      exact absurd hempty (c.dbname_of_empty hpairs hnil hparse)
    obtain ⟨hfirst, hplace₁, hplace₂, hplace₃, hplace₄⟩ :=
      (c.parseConnectionString_eq_ok_iff hpairs hnil).mp hparse
    rcases placed_eq_ok_iff.mp hplace₁ with ⟨e₁, he₁, hcut₁⟩
    rcases placed_eq_ok_iff.mp hplace₂ with ⟨e₂, he₂, hcut₂⟩
    rcases placed_eq_ok_iff.mp hplace₃ with ⟨e₃, he₃, hcut₃⟩
    rcases placed_eq_ok_iff.mp hplace₄ with ⟨e₄, he₄, hcut₄⟩
    have hplain : cut e₀.2 = e₀.2 := by rw [hgen, hfirst, hdb dbname hdbname]
    rw [← hfirst] at hdb
    rw [← hcut₁] at huser
    rw [← hcut₂] at hpassword
    rw [← hcut₃] at hhost
    rw [← hcut₄] at hport
    exact ⟨e₀, e₁, e₂, e₃, e₄, _, exists_five he₀ he₁ he₂ he₃ he₄,
      ⟨hnil, cut_eq_self_iff.mp hplain, hdb⟩, huser, hpassword, hhost, hport⟩
  · rintro ⟨e₀, e₁, e₂, e₃, e₄, rest, hpairs, ⟨hne, hplain, hdb⟩, huser, hpassword, hhost, hport⟩
    have hparse : parseConnectionString c.text =
        .ok ⟨e₀.2, cut e₁.2, cut e₂.2, cut e₃.2, cut e₄.2⟩ := by
      rw [c.parseConnectionString_eq_ok_iff hpairs hne, hpairs]
      exact ⟨rfl, rfl, rfl, rfl, rfl⟩
    have hwrite : writeConnectionKeys c.text = .ok ⟨e₀.2, cut e₁.2, cut e₂.2⟩ := by
      rw [c.writeConnectionKeys_eq_ok_iff, hpairs]
      exact ⟨congrArg Except.ok (cut_eq_self_iff.mpr hplain), rfl, rfl⟩
    exact ⟨⟨_, hparse, hdb, huser, hpassword, hhost, hport⟩, ⟨_, hwrite, hdb, huser, hpassword⟩⟩

end ConnectionString

/-- The example of the generator with the user first and a `=` in the password. -/
def userFirst : ConnectionString where
  text := "user=helpcovid_usr dbname=helpcovid_db password=pass=1234 hostaddr=127.0.0.1 port=5432".toList
  pairs := [("user".toList, "helpcovid_usr".toList), ("dbname".toList, "helpcovid_db".toList),
    ("password".toList, "pass=1234".toList), ("hostaddr".toList, "127.0.0.1".toList),
    ("port".toList, "5432".toList)]
  words := by decide +kernel
  keys := by decide
  has := by
    intro key hkey
    simp only [connectionKeys, List.mem_cons, List.not_mem_nil, or_false] at hkey
    rcases hkey with rfl | rfl | rfl | rfl | rfl <;> simp

/-- The user's name is taken for the database, and the password is cut. -/
theorem userFirst_misread :
    parseConnectionString userFirst.text =
        .ok ⟨"helpcovid_usr".toList, "helpcovid_db".toList, "pass".toList, "127.0.0.1".toList,
          "5432".toList⟩ ∧
      writeConnectionKeys userFirst.text =
        .ok ⟨"helpcovid_usr".toList, "helpcovid_db".toList, "pass".toList⟩ ∧
      ¬ userFirst.ReadByKey := by
  have hparse : parseConnectionString userFirst.text =
      .ok ⟨"helpcovid_usr".toList, "helpcovid_db".toList, "pass".toList, "127.0.0.1".toList,
        "5432".toList⟩ := by decide +kernel
  refine ⟨hparse, by decide +kernel, ?_⟩
  intro hread
  rcases hread.backup with ⟨keys, hkeys, hdb, -⟩
  rw [hparse] at hkeys
  obtain rfl := Except.ok.inj hkeys
  have hsecond : ("dbname".toList, "helpcovid_db".toList) ∈ userFirst.pairs :=
    List.mem_cons_of_mem _ List.mem_cons_self
  exact absurd (hdb _ hsecond) (by decide)

end HelpCovid.Startup
