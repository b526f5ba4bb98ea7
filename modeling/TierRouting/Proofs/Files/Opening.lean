import TierRouting.Files.Tree

/-! Opening a file to append keeps everything in the tree, and it can be opened there again. What
was written to a file is what is read from it. -/
namespace TierRouting.FileTree

variable {t u v : FileTree} {p q directory : Place} {path : String} {e : Entry}
  {content bytes : ByteArray} {c : Path.Component} {cs parents : List Path.Component}

theorem ne_root_of_get?_ne (h : t.get? p ≠ some .directory) : p ≠ [] := by
  rintro rfl
  exact h rfl

theorem ne_root_of_get?_eq_none (h : t.get? p = none) : p ≠ [] := by
  rintro rfl
  contradiction

theorem get?_set (hp : p ≠ []) (q : Place) :
    (t.set p e).get? q = if q = p then some e else t.get? q := by
  unfold set get?
  by_cases hq : q = p
  · subst hq
    simp [hp]
  · simp only [hq, if_false, List.find?_cons, beq_eq_false_iff_ne.mpr (Ne.symm hq),
      List.find?_filter]
    congr 3
    funext entry
    by_cases hentry : entry.1 = q
    · simp [hentry, hq]
    · simp [hentry]

/-- What the file at a place holds; nothing, where there is no file. -/
def contentAt (t : FileTree) (p : Place) : ByteArray :=
  match t.get? p with
  | some (.file content) => content
  | _ => .empty

theorem contentAt_of_get? (h : t.get? p = some (.file content)) : t.contentAt p = content := by
  rw [contentAt, h]

/-- The second tree is the first one with more directories. -/
def Grown (t u : FileTree) : Prop :=
  ∀ q, u.get? q = t.get? q ∨ t.get? q = none ∧ u.get? q = some .directory

theorem Grown.refl (t : FileTree) : Grown t t := fun _ => .inl rfl

theorem Grown.trans (h : Grown t u) (h' : Grown u v) : Grown t v := by
  intro q
  rcases h' q with hq' | ⟨hnone, hdir⟩
  · rw [hq']
    exact h q
  · rcases h q with hq | ⟨-, hdir'⟩
    · exact .inr ⟨hq ▸ hnone, hdir⟩
    · rw [hdir'] at hnone
      contradiction

theorem Grown.contentAt (h : Grown t u) (p : Place) : u.contentAt p = t.contentAt p := by
  unfold FileTree.contentAt
  rcases h p with hp | ⟨hnone, hdir⟩
  · rw [hp]
  · rw [hnone, hdir]

/-- Every directory of the first tree is one of the second. -/
def Leads (t u : FileTree) : Prop := ∀ q, t.isDirectory q = true → u.isDirectory q = true

theorem isDirectory_iff : t.isDirectory q = true ↔ t.get? q = some .directory := by
  unfold isDirectory
  split
  · next h => simp [h]
  · next h =>
    constructor
    · nofun
    · exact fun hdir => absurd hdir h

theorem Grown.leads (h : Grown t u) : Leads t u := by
  intro q hq
  rw [isDirectory_iff] at hq ⊢
  rcases h q with hsame | ⟨hnone, -⟩
  · rw [hsame, hq]
  · rw [hq] at hnone
    contradiction

theorem walk_of_leads (h : Leads t u) {start : Place} (hwalk : t.walk start cs = .ok p) :
    u.walk start cs = .ok p := by
  induction cs generalizing start with
  | nil => exact hwalk
  | cons c cs ih =>
    cases c with
    | root => exact ih hwalk
    | here => exact ih hwalk
    | up => exact ih hwalk
    | name s =>
      unfold walk at hwalk ⊢
      dsimp only at hwalk ⊢
      split
      · next hlong =>
        rw [if_pos hlong] at hwalk
        contradiction
      · next hlong =>
        rw [if_neg hlong] at hwalk
        split
        · next hlast =>
          rw [if_pos hlast] at hwalk
          exact hwalk
        · next hlast =>
          rw [if_neg hlast] at hwalk
          split at hwalk
          · next hdir =>
            rw [isDirectory_iff.mp (h _ (isDirectory_iff.mpr hdir))]
            exact ih hwalk
          · contradiction
          · contradiction

theorem locate_of_leads (h : Leads t u) (hlocate : t.locate directory path = .ok p) :
    u.locate directory path = .ok p := by
  unfold locate at hlocate ⊢
  cases hname : checkName path with
  | error e =>
    rw [hname] at hlocate
    contradiction
  | ok =>
    rw [hname] at hlocate
    exact walk_of_leads h hlocate

theorem namesDirectory_iff : t.namesDirectory directory path = true ↔
    ∃ p, t.locate directory path = .ok p ∧ t.isDirectory p = true := by
  unfold namesDirectory
  split
  · next p h => simp [h]
  · next e h => simp [h]

theorem namesDirectory_of_leads (h : Leads t u)
    (hnames : t.namesDirectory directory path = true) :
    u.namesDirectory directory path = true := by
  rw [namesDirectory_iff] at hnames ⊢
  obtain ⟨p, hlocate, hdir⟩ := hnames
  exact ⟨p, locate_of_leads h hlocate, h p hdir⟩

/-- A directory is made only where there is nothing. -/
theorem makeDirectory_cases (h : t.makeDirectory directory path = .ok u) :
    ∃ p, t.locate directory path = .ok p ∧ t.get? p = none ∧ u = t.set p .directory := by
  unfold makeDirectory at h
  cases hlocate : t.locate directory path with
  | error e =>
    rw [hlocate] at h
    contradiction
  | ok p =>
    simp only [hlocate, bind, Except.bind] at h
    split at h
    · next hnone => exact ⟨p, rfl, hnone, (Except.ok.inj h).symm⟩
    · contradiction

theorem grown_set_directory (h : t.get? p = none) : Grown t (t.set p .directory) := by
  have hp : p ≠ [] := ne_root_of_get?_eq_none h
  intro q
  rw [get?_set hp]
  split
  · next hq => exact .inr ⟨hq ▸ h, rfl⟩
  · exact .inl rfl

theorem makeDirectory_grown (h : t.makeDirectory directory path = .ok u) : Grown t u := by
  obtain ⟨p, -, hnone, rfl⟩ := makeDirectory_cases h
  exact grown_set_directory hnone

theorem namesDirectory_makeDirectory (h : t.makeDirectory directory path = .ok u) :
    u.namesDirectory directory path = true := by
  obtain ⟨p, hlocate, hnone, rfl⟩ := makeDirectory_cases h
  have hp : p ≠ [] := ne_root_of_get?_eq_none hnone
  rw [namesDirectory_iff]
  refine ⟨p, locate_of_leads (grown_set_directory hnone).leads hlocate, ?_⟩
  rw [isDirectory_iff, get?_set hp, if_pos rfl]

/-- A directory that is there already does as well as a new one. -/
def makeOrFind (t : FileTree) (directory : Place) (path : String) :
    FileTree × Except FileError Unit :=
  match t.makeDirectory directory path with
  | .ok t => (t, .ok ())
  | .error e => (t, if t.namesDirectory directory path then .ok () else .error e)

theorem makeOrFind_grown (t : FileTree) : Grown t (t.makeOrFind directory path).1 := by
  unfold makeOrFind
  split
  · next h => exact makeDirectory_grown h
  · exact .refl t

theorem namesDirectory_makeOrFind (h : t.makeOrFind directory path = (u, .ok ())) :
    u.namesDirectory directory path = true := by
  unfold makeOrFind at h
  split at h
  · next hmake =>
    cases h
    exact namesDirectory_makeDirectory hmake
  · split at h
    · next hnames =>
      cases h
      exact hnames
    · cases h

theorem makeOrFind_of_namesDirectory (h : t.namesDirectory directory path = true) :
    t.makeDirectory directory path = .error .alreadyExists ∧
      t.makeOrFind directory path = (t, .ok ()) := by
  obtain ⟨p, hlocate, hdir⟩ := namesDirectory_iff.mp h
  have hmake : t.makeDirectory directory path = .error .alreadyExists := by
    simp [makeDirectory, hlocate, bind, Except.bind, isDirectory_iff.mp hdir]
  exact ⟨hmake, by simp [makeOrFind, hmake, h]⟩

theorem makeDirectories_cons (t : FileTree) : t.makeDirectories directory (c :: parents) =
    match t.makeDirectory directory (Path.ofComponents (c :: parents).reverse) with
    | .error .notFound =>
      match t.makeDirectories directory parents with
      | (t, .ok ()) => t.makeOrFind directory (Path.ofComponents (c :: parents).reverse)
      | (t, .error e) => (t, .error e)
    | _ => t.makeOrFind directory (Path.ofComponents (c :: parents).reverse) := rfl

theorem makeDirectories_grown (t : FileTree) (directory : Place)
    (cs : List Path.Component) :
    Grown t (t.makeDirectories directory cs).1 := by
  induction cs with
  | nil => exact .refl t
  | cons c parents ih =>
    rw [makeDirectories_cons]
    split
    · split
      · next h =>
        rw [h] at ih
        exact ih.trans (makeOrFind_grown _)
      · next h =>
        rw [h] at ih
        exact ih
    · exact makeOrFind_grown t

theorem namesDirectory_makeDirectories
    (h : t.makeDirectories directory (c :: parents) = (u, .ok ())) :
    u.namesDirectory directory (Path.ofComponents (c :: parents).reverse) = true := by
  rw [makeDirectories_cons] at h
  split at h
  · split at h
    · exact namesDirectory_makeOrFind h
    · cases h
  · exact namesDirectory_makeOrFind h

theorem makeDirectories_of_namesDirectory
    (h : cs ≠ [] → t.namesDirectory directory (Path.ofComponents cs.reverse) = true) :
    t.makeDirectories directory cs = (t, .ok ()) := by
  cases cs with
  | nil => rfl
  | cons c parents =>
    obtain ⟨hmake, hfind⟩ := makeOrFind_of_namesDirectory (h (List.cons_ne_nil c parents))
    rw [makeDirectories_cons, hmake]
    exact hfind

/-- A file is opened where there is one, or where there is nothing. -/
theorem openAppend_cases (h : t.openAppend directory path = .ok (u, p)) :
    t.locate directory path = .ok p ∧ endsInName path = true ∧
      ((∃ content, t.get? p = some (.file content)) ∧ u = t ∨
        t.get? p = none ∧ u = t.set p (.file .empty)) := by
  unfold openAppend at h
  cases hlocate : t.locate directory path with
  | error e =>
    rw [hlocate] at h
    contradiction
  | ok q =>
    simp only [hlocate, bind, Except.bind] at h
    split at h
    · next hname =>
      split at h
      · next hnone =>
        cases h
        exact ⟨rfl, hname, .inr ⟨hnone, rfl⟩⟩
      · next content hfile =>
        cases h
        exact ⟨rfl, hname, .inl ⟨⟨content, hfile⟩, rfl⟩⟩
      · contradiction
    · contradiction

theorem append_eq_set (h : t.get? p = some (.file content)) :
    t.append p bytes = t.set p (.file (content ++ bytes)) := by
  rw [append, h]

/-- Putting a file where there is no directory leaves the directories. -/
theorem leads_set_file (content : ByteArray) (h : t.get? p ≠ some .directory) :
    Leads t (t.set p (.file content)) := by
  intro q hq
  rw [isDirectory_iff] at hq ⊢
  rw [get?_set (ne_root_of_get?_ne h), if_neg, hq]
  rintro rfl
  exact h hq

theorem fromUTF8?_toUTF8 (text : String) : String.fromUTF8? text.toUTF8 = some text :=
  dif_pos text.isValidUTF8

theorem readText_eq_ok {text : String} (hlocate : t.locate directory path = .ok p)
    (hfile : t.get? p = some (.file text.toUTF8)) (hname : endsInSlash path = false) :
    t.readText directory path = .ok text := by
  have hread : t.read directory path = .ok text.toUTF8 := by
    simp [read, hlocate, hfile, hname, bind, Except.bind]
  rw [readText, hread]
  simp only [bind, Except.bind, fromUTF8?_toUTF8]

end TierRouting.FileTree
