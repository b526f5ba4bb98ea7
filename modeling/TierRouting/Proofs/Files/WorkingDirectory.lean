import TierRouting.Config.Load
import TierRouting.Proofs.Files.Opening
import TierRouting.Proofs.Text.Splitting

/-! A file in the working directory is the same under its own name and under its full one. -/
namespace TierRouting

namespace Path

/-- The name of an entry of a directory. -/
structure IsName (name : List Char) : Prop where
  ne_nil : name ≠ []
  slash_not_mem : '/' ∉ name
  ne_here : name ≠ ['.']
  ne_up : name ≠ ['.', '.']
  short : (String.ofList name).utf8ByteSize ≤ 255

variable {p : Place} {name : List Char}

theorem IsName.ofPiece (h : IsName name) : ofPiece name = .name name := by
  unfold Path.ofPiece
  split
  · exact absurd rfl h.ne_here
  · exact absurd rfl h.ne_up
  · rfl

/-- Each name on the way stands behind a slash of its own. -/
theorem toList_placePath (hp : p ≠ []) :
    (Config.placePath p).toList = p.flatMap ('/' :: ·) := by
  obtain ⟨name, rest, rfl⟩ := List.exists_cons_of_ne_nil hp
  have htexts : ((name :: rest).map Component.name).map Component.text = name :: rest := by
    simp [Component.text, Function.comp_def]
  have hpath : Config.placePath (name :: rest) = String.ofList (Text.joinWith '/'
      ([] :: ((name :: rest).map Component.name).map Component.text)) := rfl
  rw [hpath, htexts, String.toList_ofList, Text.joinWith_cons hp, List.nil_append,
    Text.cons_joinWith hp]

theorem isAbsolute_placePath (p : Place) : isAbsolute (Config.placePath p) = true := by
  cases p with
  | nil => rfl
  | cons name rest =>
    rw [isAbsolute, toList_placePath (List.cons_ne_nil name rest)]
    rfl

/-- The way to a place is what its path is taken apart into. -/
theorem pieces_placePath (h : ∀ name ∈ p, IsName name) :
    pieces (Config.placePath p) = p.map .name := by
  cases p with
  | nil => rfl
  | cons name rest =>
    have hp : name :: rest ≠ [] := List.cons_ne_nil name rest
    have hfilled : (name :: rest).filter (!·.isEmpty) = name :: rest :=
      List.filter_eq_self.mpr fun n hn => by simp [(h n hn).ne_nil]
    rw [pieces, toList_placePath hp, ← Text.cons_joinWith hp, Text.splitAt_cons_self,
      Text.splitAt_joinWith hp fun n hn => (h n hn).slash_not_mem,
      List.filter_cons_of_neg (by simp), hfilled]
    exact List.map_congr_left fun n hn => (h n hn).ofPiece

theorem getLast?_placePath (hname : IsName name) :
    (Config.placePath (p ++ [name])).toList.getLast? ≠ some '/' := by
  obtain ⟨c, hc⟩ : ∃ c, name.getLast? = some c :=
    ⟨_, List.getLast?_eq_some_getLast hname.ne_nil⟩
  have hlast : (Config.placePath (p ++ [name])).toList.getLast? = some c := by
    rw [toList_placePath (List.concat_ne_nil name p), List.flatMap_append, List.flatMap_singleton,
      List.append_cons, List.getLast?_append, hc, Option.some_or]
  rw [hlast]
  rintro ⟨⟩
  exact hname.slash_not_mem (List.mem_of_getLast? hc)

theorem isAbsolute_ofList (hname : IsName name) : isAbsolute (String.ofList name) = false := by
  rw [isAbsolute, String.toList_ofList, beq_eq_false_iff_ne]
  exact fun hslash => hname.slash_not_mem (List.mem_of_head? hslash)

/-- A name joined to the path of a directory gives the path of the entry. -/
theorem join_placePath (h : ∀ n ∈ p, IsName n) (hname : IsName name) :
    join (Config.placePath p) (String.ofList name) = Config.placePath (p ++ [name]) := by
  have hwhole := toList_placePath (List.concat_ne_nil name p)
  rw [List.flatMap_append, List.flatMap_singleton] at hwhole
  have hfilled : (Config.placePath p).isEmpty = false := by
    have habsolute := isAbsolute_placePath p
    rw [String.isEmpty_eq_false_iff]
    rintro he
    rw [he] at habsolute
    contradiction
  rw [join, isAbsolute_ofList hname, hfilled, Bool.or_false, if_neg Bool.false_ne_true]
  rcases p.eq_nil_or_concat with rfl | ⟨front, last, hp⟩
  · have hroot : (Config.placePath []).toList.getLast? = some '/' := rfl
    rw [if_pos hroot]
    refine String.toList_injective ?_
    rw [hwhole, String.toList_append, String.toList_ofList]
    rfl
  · rw [List.concat_eq_append] at hp
    subst hp
    have hlast := getLast?_placePath (p := front) (h last (by simp))
    rw [if_neg hlast]
    refine String.toList_injective ?_
    rw [hwhole, String.toList_append, String.toList_append, String.toList_ofList,
      toList_placePath (List.concat_ne_nil last front)]
    simp

end Path

namespace FileTree

variable {t : FileTree} {p start : Place} {name : List Char}

/-- A way through directories leads to its last name. -/
theorem walk_names (hnames : ∀ n ∈ p ++ [name], Path.IsName n)
    (hdirs : ∀ q, q ≠ [] → q <+: p → t.get? (start ++ q) = some .directory) :
    t.walk start ((p ++ [name]).map .name) = .ok (start ++ (p ++ [name])) := by
  induction p generalizing start with
  | nil =>
    have hshort := (hnames name (by simp)).short
    simp [walk, Nat.not_lt.mpr hshort]
  | cons n p ih =>
    obtain ⟨hn, hrest⟩ := List.forall_mem_cons.mp hnames
    have hdir : t.get? (start ++ [n]) = some .directory :=
      hdirs [n] (List.cons_ne_nil _ _) (List.prefix_append [n] p)
    have hnext := @ih (start ++ [n]) hrest fun q hq hprefix => by
      have hlonger := hdirs (n :: q) (List.cons_ne_nil _ _)
        (List.cons_prefix_cons.mpr ⟨rfl, hprefix⟩)
      simpa using hlonger
    have hlast : ((p ++ [name]).map Path.Component.name).isEmpty = false := by simp
    rw [List.cons_append, List.map_cons, walk]
    simp only [hlast, hdir, hnext, Nat.not_lt.mpr hn.short, if_false, Bool.false_eq_true]
    simp

/-- There is a way to a place through directories. -/
structure IsPlace (t : FileTree) (p : Place) : Prop where
  names : ∀ n ∈ p, Path.IsName n
  directories : ∀ q, q ≠ [] → q <+: p → t.get? q = some .directory

variable {text : String}

theorem endsInSlash_ofList (hname : Path.IsName name) :
    endsInSlash (String.ofList name) = false := by
  rw [endsInSlash, String.toList_ofList, beq_eq_false_iff_ne]
  exact fun hslash => hname.slash_not_mem (List.mem_of_getLast? hslash)

theorem steps_ofList (hname : Path.IsName name) :
    steps (String.ofList name) = [.name name] := by
  have hfilled : [name].filter (!·.isEmpty) = [name] := by simp [hname.ne_nil]
  rw [steps, Path.isAbsolute_ofList hname, Path.pieces, String.toList_ofList,
    Text.splitAt_of_not_mem hname.slash_not_mem, hfilled, List.map_singleton, hname.ofPiece]
  rfl

/-- From its directory, a file is read under its name. -/
theorem readText_ofList (hname : Path.IsName name) (hcheck : checkName (.ofList name) = .ok ())
    (hfile : t.get? (p ++ [name]) = some (.file text.toUTF8)) :
    t.readText p (.ofList name) = .ok text := by
  refine readText_eq_ok ?_ hfile (endsInSlash_ofList hname)
  have hwalk : t.walk p [.name name] = .ok (p ++ [name]) := by
    simp [walk, Nat.not_lt.mpr hname.short]
  rw [locate, hcheck, steps_ofList hname, ← hwalk]
  rfl

/-- From the root, it is read under its full name. -/
theorem readText_placePath (hp : t.IsPlace p) (hname : Path.IsName name)
    (hcheck : checkName (Config.placePath (p ++ [name])) = .ok ())
    (hfile : t.get? (p ++ [name]) = some (.file text.toUTF8)) :
    t.readText [] (Config.placePath (p ++ [name])) = .ok text := by
  have hnames : ∀ n ∈ p ++ [name], Path.IsName n := by
    simp only [List.forall_mem_append, List.forall_mem_singleton]
    exact ⟨hp.names, hname⟩
  have hslash : endsInSlash (Config.placePath (p ++ [name])) = false := by
    rw [endsInSlash, beq_eq_false_iff_ne]
    exact Path.getLast?_placePath hname
  refine readText_eq_ok ?_ hfile hslash
  have hsteps : steps (Config.placePath (p ++ [name])) = .root :: (p ++ [name]).map .name := by
    rw [steps, Path.isAbsolute_placePath, Path.pieces_placePath hnames]
    rfl
  have hwalk : t.walk [] ((p ++ [name]).map .name) = .ok ([] ++ (p ++ [name])) :=
    walk_names hnames fun q hq hprefix => hp.directories q hq hprefix
  rw [List.nil_append] at hwalk
  rw [locate, hcheck, hsteps]
  exact hwalk

theorem isFile_of_readText {directory : Place} {path : String}
    (h : t.readText directory path = .ok text) : t.isFile directory path = true := by
  unfold isFile
  cases hread : t.read directory path with
  | ok content => rfl
  | error e =>
    rw [readText, hread] at h
    contradiction

end FileTree
end TierRouting
