/-
Paths, and the directories above them.

A path is read from a directory by joining it to the directory, and what is above a
path is the directory that its last component was joined to. So the files that a
configuration names are looked for where it stands itself, and directories are made
one below the other.

* `Path.ReadFrom`, `readFrom_iff`: a path as it stands when it is read from a
  directory.
* `Path.IsName`, `Path.IsDirectory`: a component that names something, and a
  directory without separators or `.` behind its last name.
* `parent?_below`, `parent?_join`: a component in a directory has the directory
  above it.
* `exists_append_of_parent?`, `length_lt_of_parent?`: what is above a path is a
  proper front of it.
* `FileSystem.makeDirectoriesWithin_eq`: so the way up ends within the bound that
  `makeDirectories` sets, and a higher one makes the same directories.
-/
import Mathlib.Data.List.Basic
import Mathlib.Tactic.Lemma
import Activation.Files.System
import Activation.Proofs.Text

namespace Activation

namespace Path

variable {base path after name parent : String}

/-! ### Joined paths -/

/-- A path as it stands when it is read from a directory: an absolute one as it is, and any other
behind the directory, a `/` between them unless the directory is empty or ends in one. -/
inductive ReadFrom (base path : String) : String → Prop
  | absolute (h : path.toList.head? = some '/') : ReadFrom base path path
  | here (h : path.toList.head? ≠ some '/') (hbase : base = "") : ReadFrom base path path
  | behind (h : path.toList.head? ≠ some '/') (hbase : base.toList.getLast? = some '/') :
      ReadFrom base path (base ++ path)
  | below (h : path.toList.head? ≠ some '/') (hbase : base ≠ "")
      (hlast : base.toList.getLast? ≠ some '/') : ReadFrom base path (base ++ "/" ++ path)

lemma isAbsolute_iff : isAbsolute path = true ↔ path.toList.head? = some '/' := by
  rw [isAbsolute, beq_iff_eq]

lemma join_of_absolute (h : path.toList.head? = some '/') : join base path = path := by
  rw [join, isAbsolute_iff.mpr h, Bool.true_or, if_pos rfl]

lemma join_empty (path : String) : join "" path = path := by
  rw [join, beq_self_eq_true, Bool.or_true, if_pos rfl]

/-- A relative path stands behind a directory that is not empty. -/
lemma join_of_relative (h : path.toList.head? ≠ some '/') (hbase : base ≠ "") :
    join base path =
      if base.toList.getLast? = some '/' then base ++ path else base ++ "/" ++ path := by
  have hrelative : isAbsolute path = false := Bool.eq_false_iff.mpr (isAbsolute_iff.not.mpr h)
  rw [join, hrelative, beq_false_of_ne hbase, Bool.or_false, if_neg Bool.false_ne_true]
  simp only [beq_iff_eq]

/-- A path is read from a directory as it is joined to it. -/
lemma readFrom_iff : ReadFrom base path after ↔ after = join base path := by
  constructor
  · intro h
    cases h with
    | absolute h => rw [join_of_absolute h]
    | here h hbase => rw [hbase, join_empty]
    | behind h hlast =>
        have hbase : base ≠ "" := by
          rintro rfl
          cases hlast
        rw [join_of_relative h hbase, if_pos hlast]
    | below h hbase hlast => rw [join_of_relative h hbase, if_neg hlast]
  · rintro rfl
    by_cases h : path.toList.head? = some '/'
    · rw [join_of_absolute h]
      exact .absolute h
    by_cases hbase : base = ""
    · rw [hbase, join_empty]
      exact .here h rfl
    rw [join_of_relative h hbase]
    by_cases hlast : base.toList.getLast? = some '/'
    · rw [if_pos hlast]
      exact .behind h hlast
    · rw [if_neg hlast]
      exact .below h hbase hlast

/-! ### Components -/

/-- A component that names something below the directory in which it stands, or the directory above
that, as `..` does. -/
structure IsName (name : String) : Prop where
  ne : name ≠ ""
  ne_dot : name ≠ "."
  separator : '/' ∉ name.toList

lemma pieces_of_isName (h : IsName name) : pieces name = [name] := by
  rw [pieces, Text.split_of_not_mem h.separator, List.map_singleton, String.ofList_toList]

lemma pieces_append (front back : String) :
    pieces (front ++ "/" ++ back) = pieces front ++ pieces back := by
  have hchars : (front ++ "/" ++ back).toList = front.toList ++ '/' :: back.toList := by simp
  rw [pieces, hchars, Text.split_append, List.map_append]
  rfl

/-- Nothing but the separators stands between the components. -/
lemma intercalate_pieces (path : String) : "/".intercalate (pieces path) = path := by
  have hchars : ∀ cs : List Char, ['/'].intercalate (Text.split '/' cs) = cs := by
    intro cs
    induction cs using Text.pieces_induction '/' with
    | last piece hpiece => rw [Text.split_of_not_mem hpiece, List.intercalate_singleton]
    | next piece rest hpiece ih =>
        rw [Text.split_append, Text.split_of_not_mem hpiece, List.singleton_append,
          List.intercalate_cons_of_ne_nil (Text.split_ne_nil '/' rest), ih]
        simp
  have htexts : String.toList ∘ String.ofList = id := by
    funext cs
    exact String.toList_ofList
  rw [← String.toList_inj, String.toList_intercalate, pieces, List.map_map, htexts, List.map_id]
  exact hchars path.toList

/-- A name at the end is not idle. -/
lemma dropIdle_concat (h : IsName name) (components : List String) :
    dropIdle (components ++ [name]) = components ++ [name] := by
  have hkept : ¬ (name == "" || name == ".") = true := by simp [h.ne, h.ne_dot]
  rw [dropIdle, List.reverse_concat, List.dropWhile_cons, if_neg hkept, ← List.reverse_concat,
    List.reverse_reverse]

lemma exists_dropIdle_append (components : List String) :
    ∃ idle, components = dropIdle components ++ idle := by
  obtain ⟨idle, hidle⟩ := List.dropWhile_suffix (l := components.reverse)
    fun piece => piece == "" || piece == "."
  refine ⟨idle.reverse, ?_⟩
  rw [dropIdle, ← List.reverse_append, hidle, List.reverse_reverse]

/-- Components that do not all name nothing are kept down to one that names something. -/
lemma exists_of_dropIdle_ne_nil {components : List String} (h : dropIdle components ≠ []) :
    ∃ before name idle, dropIdle components = before ++ [name] ∧ name ≠ "" ∧
      components = before ++ name :: idle := by
  obtain ⟨idle, hidle⟩ := exists_dropIdle_append components
  obtain hnil | ⟨before, name, hlast⟩ := List.eq_nil_or_concat (dropIdle components)
  · exact absurd hnil h
  · rw [List.concat_eq_append] at hlast
    refine ⟨before, name, idle, hlast, ?_, by rw [hlast] at hidle; simpa using hidle⟩
    rintro rfl
    have hhead : (components.reverse.dropWhile fun piece => piece == "" || piece == ".").head? =
        some "" := by
      rw [← List.getLast?_reverse, ← dropIdle, hlast, List.getLast?_concat]
    have hkept := List.head?_dropWhile_not (fun piece => piece == "" || piece == ".")
      components.reverse
    rw [hhead] at hkept
    cases hkept

/-- Components of which one has a character spell more than nothing. -/
lemma intercalate_ne_empty {components : List String} (h : name ∈ components) (hname : name ≠ "") :
    "/".intercalate components ≠ "" := by
  cases components with
  | nil => cases h
  | cons component components =>
      cases components with
      | nil => rwa [String.intercalate_singleton, ← List.mem_singleton.mp h]
      | cons second components => simp [String.intercalate_cons_of_ne_nil]

/-- More components spell a longer text. -/
lemma exists_append_intercalate (front : List String) {back : List String} (h : name ∈ back)
    (hname : name ≠ "") :
    ∃ behind, behind ≠ "" ∧ "/".intercalate front ++ behind = "/".intercalate (front ++ back) := by
  cases front with
  | nil => exact ⟨_, intercalate_ne_empty h hname, by simp⟩
  | cons component components =>
      refine ⟨"/" ++ "/".intercalate back, by simp, ?_⟩
      rw [String.intercalate_append_of_ne_nil (List.cons_ne_nil _ _) (List.ne_nil_of_mem h),
        String.append_assoc]

/-! ### Fronts -/

lemma front_append_rest (path : String) : (cutFront path).1 ++ (cutFront path).2 = path := by
  rw [← String.toList_inj, cutFront]
  split <;> simp_all

/-- What is below a path has the front of the path. -/
lemma cutFront_below (hbase : base ≠ "") (name : String) :
    cutFront (base ++ "/" ++ name) = ((cutFront base).1, (cutFront base).2 ++ "/" ++ name) := by
  have hchars : (base ++ "/" ++ name).toList = base.toList ++ '/' :: name.toList := by simp
  have hrest : ∀ cs, String.ofList (cs ++ '/' :: name.toList) =
      String.ofList cs ++ "/" ++ name := by
    intro cs
    rw [← String.toList_inj]
    simp
  rw [cutFront, cutFront, hchars]
  cases hcs : base.toList with
  | nil => exact absurd (String.toList_eq_nil_iff.mp hcs) hbase
  | cons c cs =>
      by_cases hslash : c = '/'
      · subst hslash
        exact congrArg (Prod.mk "/") (hrest cs)
      by_cases hdot : c = '.'
      · subst hdot
        cases cs with
        | nil => exact congrArg (Prod.mk ".") (hrest [])
        | cons d cs =>
            by_cases hd : d = '/'
            · subst hd
              exact congrArg (Prod.mk ".") (hrest ('/' :: cs))
            · simp [hd]
      · simp [hslash, hdot]

lemma cutFront_of_isName (h : IsName name) : cutFront name = ("", name) := by
  rw [cutFront]
  split
  · rename_i rest hrest
    exact absurd (hrest ▸ List.mem_cons_self) h.separator
  · rename_i hdot
    exact absurd (String.toList_inj.mp hdot) h.ne_dot
  · rename_i rest hrest
    exact absurd (hrest ▸ List.mem_cons_of_mem '.' List.mem_cons_self) h.separator
  · rfl

lemma cutFront_root (path : String) : cutFront ("/" ++ path) = ("/", path) := by
  have hchars : ("/" ++ path).toList = '/' :: path.toList := by simp
  rw [cutFront, hchars]
  exact congrArg (Prod.mk "/") String.ofList_toList

/-! ### Parents -/

/-- The path without separators and `.` behind its last name. -/
def bare (path : String) : String :=
  (cutFront path).1 ++ "/".intercalate (dropIdle (pieces (cutFront path).2))

/-- The components that name something decide whether there is anything above a path, and what. -/
lemma parent?_eq (path : String) :
    parent? path =
      if dropIdle (pieces (cutFront path).2) = [] then
        if (cutFront path).1 = "." then some "" else none
      else some ((cutFront path).1 ++
        "/".intercalate (dropIdle (dropIdle (pieces (cutFront path).2)).dropLast)) := by
  rw [parent?]
  dsimp only
  cases dropIdle (pieces (cutFront path).2) with
  | nil => simp
  | cons component components => rfl

lemma parent?_of_concat {front rest : String} {components : List String} (hname : IsName name)
    (hfront : cutFront path = (front, rest)) (hpieces : pieces rest = components ++ [name]) :
    parent? path = some (front ++ "/".intercalate (dropIdle components)) := by
  rw [parent?_eq, hfront, hpieces, dropIdle_concat hname, if_neg (by simp), List.dropLast_concat]

lemma parent?_of_isName (h : IsName name) : parent? name = some "" := by
  have hpieces : pieces name = [] ++ [name] := pieces_of_isName h
  rw [parent?_of_concat h (cutFront_of_isName h) hpieces]
  rfl

/-- Above a name in a directory is the directory, without what follows its own name. -/
lemma parent?_below (hbase : base ≠ "") (h : IsName name) :
    parent? (base ++ "/" ++ name) = some (bare base) := by
  refine parent?_of_concat h (cutFront_below hbase name) ?_
  rw [pieces_append, pieces_of_isName h]

/-- A directory as it is written without idle components at its end. -/
inductive IsDirectory : String → Prop
  | here : IsDirectory ""
  | root : IsDirectory "/"
  | dot : IsDirectory "."
  | name {name : String} (h : IsName name) : IsDirectory name
  | below {above name : String} (h : IsName name) : IsDirectory (above ++ "/" ++ name)

lemma bare_of_pieces (h : dropIdle (pieces (cutFront path).2) = pieces (cutFront path).2) :
    bare path = path := by
  rw [bare, h, intercalate_pieces, front_append_rest]

lemma bare_of_isName (h : IsName name) : bare name = name := by
  refine bare_of_pieces ?_
  rw [cutFront_of_isName h, pieces_of_isName h]
  exact dropIdle_concat h []

lemma bare_below (above : String) (h : IsName name) :
    bare (above ++ "/" ++ name) = above ++ "/" ++ name := by
  refine bare_of_pieces ?_
  by_cases habove : above = ""
  · rw [habove, String.empty_append, cutFront_root, pieces_of_isName h]
    exact dropIdle_concat h []
  · rw [cutFront_below habove, pieces_append, pieces_of_isName h, dropIdle_concat h]

/-- A name does not end in a separator. -/
lemma IsName.getLast?_append (h : IsName name) (above : String) :
    (above ++ name).toList.getLast? ≠ some '/' := by
  have hne : name.toList ≠ [] := fun hnil => h.ne (String.toList_eq_nil_iff.mp hnil)
  rw [String.toList_append, List.getLast?_append_of_ne_nil _ hne]
  exact fun hlast => h.separator (List.mem_of_getLast? hlast)

/-- **Above a file is the directory from which it is read.** -/
theorem parent?_join (hbase : IsDirectory base) (h : IsName name) :
    parent? (join base name) = some base := by
  have hrelative : name.toList.head? ≠ some '/' := fun hhead =>
    h.separator (List.mem_of_head? hhead)
  have hbelow : base ≠ "" → base.toList.getLast? ≠ some '/' → bare base = base →
      parent? (join base name) = some base := by
    intro hne hlast hbare
    rw [join_of_relative hrelative hne, if_neg hlast, parent?_below hne h, hbare]
  cases hbase with
  | here => rw [join_empty, parent?_of_isName h]
  | root =>
      rw [join_of_relative hrelative (by decide), if_pos (by decide)]
      have hpieces : pieces name = [] ++ [name] := pieces_of_isName h
      exact parent?_of_concat h (cutFront_root name) hpieces
  | dot => exact hbelow (by decide) (by decide) (by decide)
  | name hbase =>
      refine hbelow hbase.ne ?_ (bare_of_isName hbase)
      simpa using hbase.getLast?_append ""
  | below hbase =>
      refine hbelow (by simp) (hbase.getLast?_append _) (bare_below _ hbase)

/-- What names nothing behind a component goes with it. -/
example : parent? "a//b/./" = some "a" := by decide +kernel

/-- **What is above a path is a proper front of it.** -/
theorem exists_append_of_parent? (h : parent? path = some parent) :
    ∃ behind, behind ≠ "" ∧ parent ++ behind = path := by
  have hpath := front_append_rest path
  rw [← intercalate_pieces (cutFront path).2] at hpath
  rw [parent?_eq] at h
  generalize pieces (cutFront path).2 = components at *
  generalize (cutFront path).1 = front at *
  split at h
  · split at h
    · rename_i hdot
      obtain rfl : "" = parent := Option.some.inj h
      exact ⟨path, by rw [← hpath, hdot]; simp, by simp⟩
    · cases h
  · rename_i hnamed
    obtain rfl := Option.some.inj h
    obtain ⟨before, name, idle, hkept, hname, rfl⟩ := exists_of_dropIdle_ne_nil hnamed
    obtain ⟨between, hbetween⟩ := exists_dropIdle_append before
    have hlast : name ∈ between ++ name :: idle := by simp
    obtain ⟨behind, hbehind, htext⟩ :=
      exists_append_intercalate (dropIdle before) hlast hname
    refine ⟨behind, hbehind, ?_⟩
    rw [hkept, List.dropLast_concat, String.append_assoc, htext, ← hpath, ← List.append_assoc,
      ← hbetween]

lemma length_lt_of_parent? (h : parent? path = some parent) : parent.length < path.length := by
  obtain ⟨behind, hbehind, rfl⟩ := exists_append_of_parent? h
  have hpos : 0 < behind.length := Nat.pos_of_ne_zero fun hzero => hbehind (by simpa using hzero)
  rw [String.length_append]
  omega

end Path

/-! ### Directories -/

namespace FileSystem

variable {m : Type → Type} [Monad m] (files : FileSystem m) {path : String}

/-- Bounds above the length of a path all leave room for the way up from it. -/
lemma makeDirectoriesWithin_congr {depth other : Nat} (hdepth : path.length < depth)
    (hother : path.length < other) :
    files.makeDirectoriesWithin depth path = files.makeDirectoriesWithin other path := by
  induction depth generalizing path other with
  | zero => exact absurd hdepth (Nat.not_lt_zero _)
  | succ depth ih =>
      obtain ⟨other, rfl⟩ := Nat.exists_eq_add_one_of_ne_zero (Nat.ne_zero_of_lt hother)
      rw [makeDirectoriesWithin, makeDirectoriesWithin]
      cases hparent : Path.parent? path with
      | none => rfl
      | some parent =>
          have hshorter := Path.length_lt_of_parent? hparent
          have hrest : files.makeDirectoriesWithin depth parent =
              files.makeDirectoriesWithin other parent := ih (by omega) (by omega)
          simp only [hrest]

/-- **Directories are made all the way up**, so that the bound on the number of them does not
count. -/
theorem makeDirectoriesWithin_eq {depth : Nat} (h : path.length < depth) :
    files.makeDirectoriesWithin depth path = files.makeDirectories path :=
  files.makeDirectoriesWithin_congr h (Nat.lt_succ_self path.length)

end FileSystem

end Activation
