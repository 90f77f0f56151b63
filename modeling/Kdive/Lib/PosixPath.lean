import Mathlib.Data.List.Basic

/-!
# Paths, normalised

A path is normalised without a look at the file system: empty and `.` components are
dropped, and a `..` takes the component before it away.  Two slashes at the front are kept,
as they are by `posixpath.normpath`, and three or more are one.

`within_child_iff` says that a name below a path is within what the path is within.  The path `/`
is an exception: with a name behind it, it begins with two slashes.
-/

namespace PosixPath

/-- A normalised path, as `PurePosixPath` takes it apart. -/
structure Normal where
  /-- The slashes it begins with. -/
  root : Nat
  components : List (List Char)
deriving DecidableEq

/-- The slashes a path begins with, of which two are kept. -/
def root : List Char → Nat
  | '/' :: '/' :: '/' :: _ => 1
  | '/' :: '/' :: _ => 2
  | '/' :: _ => 1
  | _ => 0

/-- The next component of a path.  The components before it are given last one first. -/
def push (rooted : Bool) (taken : List (List Char)) (component : List Char) : List (List Char) :=
  if component = [] ∨ component = ['.'] then taken
  else if component ≠ ['.', '.'] then component :: taken
  else
    match taken with
    | [] => if rooted then [] else [component]
    | last :: rest => if last = ['.', '.'] then component :: taken else rest

/-- `PurePosixPath(posixpath.normpath(path))` -/
def normalise (path : List Char) : Normal where
  root := root path
  components := ((path.splitOn '/').foldl (push (decide (root path ≠ 0))) []).reverse

/-- `target == base or target.is_relative_to(base)` -/
def Normal.Within (target base : Normal) : Prop :=
  target.root = base.root ∧ base.components <+: target.components

instance (target base : Normal) : Decidable (target.Within base) :=
  inferInstanceAs (Decidable (_ ∧ _))

/-- A name that is one component. -/
structure IsName (name : List Char) : Prop where
  filled : name ≠ []
  dot : name ≠ ['.']
  dots : name ≠ ['.', '.']
  slash : '/' ∉ name

/-- A name stands below its path. -/
theorem components_child {path name : List Char} (h : IsName name)
    (hroot : (root path = 0) ↔ (root (path ++ '/' :: name) = 0)) :
    (normalise (path ++ '/' :: name)).components = (normalise path).components ++ [name] := by
  have hsplit : (path ++ '/' :: name).splitOn '/' = path.splitOn '/' ++ [name] := by
    rw [List.splitOn_append_cons_self, List.splitOn_eq_singleton h.slash]
  have hpush : ∀ rooted taken, push rooted taken name = name :: taken := by
    intro rooted taken
    unfold push
    rw [if_neg (by simp [h.filled, h.dot]), if_pos h.dots]
  have hrooted : decide (root (path ++ '/' :: name) ≠ 0) = decide (root path ≠ 0) := by
    rw [decide_eq_decide, not_iff_not]
    exact hroot.symm
  rw [normalise, normalise, hsplit, hrooted]
  simp only [List.foldl_append, List.foldl_cons, List.foldl_nil, hpush, List.reverse_cons]

theorem root_two {text : List Char} (h : text.head? ≠ some '/') : root ('/' :: '/' :: text) = 2 := by
  cases text with
  | nil => rfl
  | cons c text =>
      have hc : c ≠ '/' := fun heq => h (congrArg some heq)
      simp [root, hc]

theorem root_one {text : List Char} (h : text.head? ≠ some '/') : root ('/' :: text) = 1 := by
  cases text with
  | nil => rfl
  | cons c text =>
      have hc : c ≠ '/' := fun heq => h (congrArg some heq)
      simp [root, hc]

theorem root_zero {text : List Char} (h : text.head? ≠ some '/') : root text = 0 := by
  cases text with
  | nil => rfl
  | cons c text =>
      have hc : c ≠ '/' := fun heq => h (congrArg some heq)
      simp [root, hc]

theorem root_slash (rest : List Char) : root ('/' :: rest) ≠ 0 := by
  cases rest with
  | nil => simp [root]
  | cons c rest =>
      rw [root.eq_def]
      split <;> simp_all

/-- A name behind a path changes what the path begins with only behind bare slashes. -/
theorem root_child {path name : List Char} (h : IsName name) (hpath : root path ≠ 0) :
    root (path ++ '/' :: name) = root path ↔ path ≠ ['/'] ∧ path ≠ ['/', '/'] := by
  have hname : name.head? ≠ some '/' := fun heq => h.slash (List.mem_of_head? heq)
  have hhead : ∀ {c rest}, c ≠ '/' → (c :: rest : List Char).head? ≠ some '/' :=
    fun hc heq => hc (Option.some.inj heq)
  cases path with
  | nil => exact absurd rfl hpath
  | cons first rest =>
      by_cases hfirst : first = '/'
      · subst hfirst
        cases rest with
        | nil =>
            rw [List.singleton_append, root_two hname]
            simp [root]
        | cons second rest =>
            by_cases hsecond : second = '/'
            · subst hsecond
              cases rest with
              | nil => simp [root]
              | cons third rest =>
                  by_cases hthird : third = '/'
                  · subst hthird
                    simp [root]
                  · rw [List.cons_append, List.cons_append, List.cons_append,
                      root_two (hhead hthird), root_two (hhead hthird)]
                    simp
            · rw [List.cons_append, List.cons_append, root_one (hhead hsecond),
                root_one (hhead hsecond)]
              simp [hsecond]
      · exact absurd (root_zero (hhead hfirst)) hpath

/-- A name below a path is within what the path is within, if the path is not bare slashes. -/
theorem within_child_iff {path base name : List Char} (h : IsName name)
    (hpath : (normalise path).Within (normalise base)) (hbase : root base ≠ 0) :
    (normalise (path ++ '/' :: name)).Within (normalise base) ↔
      path ≠ ['/'] ∧ path ≠ ['/', '/'] := by
  have hrooted : root path ≠ 0 := by
    rw [show root path = root base from hpath.1]
    exact hbase
  rw [← root_child h hrooted]
  constructor
  · intro hwithin
    exact hwithin.1.trans hpath.1.symm
  · intro hroot
    have hzero : root path = 0 ↔ root (path ++ '/' :: name) = 0 := by rw [hroot]
    refine ⟨hroot.trans hpath.1, ?_⟩
    rw [components_child h hzero]
    exact hpath.2.trans (List.prefix_append _ _)

end PosixPath
