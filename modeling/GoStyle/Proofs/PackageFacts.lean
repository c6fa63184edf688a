import Mathlib.Data.List.Basic
import GoStyle.Lint.Package

/-!
# Facts of a package

The facts of a package are gathered file by file and method by method, but what they say does not
hang on that order. A package is documented if one of its files is (`documented_build`), a path is
that of a generated file if some file there is marked (`isGenerated_build`), and a type is sortable
if each of the three methods is declared on it somewhere (`isSortable_build_iff`). Only the name,
which is the first file's, and the receiver names, which are the first used, are a matter of order.
-/

namespace GoStyle

/-! ## Methods -/

/-- Whether the function is the method of the given name on a type. -/
def FuncDecl.declares (f : FuncDecl) (type name : String) : Bool :=
  f.receiverType? == some type && f.name.name == name

/-- Which sort methods of a type a table knows. -/
def seenMethods (table : List (String × SortMethods)) (type : String) : SortMethods :=
  (table.lookup type).getD SortMethods.none

theorem PackageContext.isSortable_eq (c : PackageContext) (type : String) :
    c.isSortable type = (seenMethods c.sortMethods type).complete := by
  unfold PackageContext.isSortable seenMethods
  cases c.sortMethods.lookup type <;> rfl

theorem seenMethods_cons (t type : String) (m : SortMethods)
    (table : List (String × SortMethods)) :
    seenMethods ((t, m) :: table) type = if type = t then m else seenMethods table type := by
  unfold seenMethods
  rw [List.lookup_cons]
  by_cases h : type = t
  · simp [h]
  · rw [beq_eq_false_iff_ne.mpr h, if_neg h]

/-- To see a method changes what is known of its type only. -/
theorem seenMethods_seeMethod (type name t : String) : ∀ table : List (String × SortMethods),
    seenMethods (seeMethod type name table) t =
      if t = type then (seenMethods table t).see name else seenMethods table t
  | [] => by rw [seeMethod, seenMethods_cons]; rfl
  | (t', m) :: table => by
    rw [seeMethod]
    split
    · rename_i h
      subst h
      rw [seenMethods_cons, seenMethods_cons]
      split <;> rfl
    · rename_i h
      rw [seenMethods_cons, seenMethods_cons, seenMethods_seeMethod type name t table]
      by_cases ht : t = t'
      · subst ht
        rw [if_pos rfl, if_pos rfl, if_neg h]
      · rw [if_neg ht, if_neg ht]

/-- A method that is no sort method adds nothing. -/
theorem SortMethods.see_of_not_isSortMethod {name : String} (h : isSortMethod name = false)
    (m : SortMethods) : m.see name = m := by
  simp only [isSortMethod, Bool.or_eq_false_iff] at h
  simp [SortMethods.see, h]

/-- The sort methods of a type that are known, and those that `methods` declare. -/
def SortMethods.withAny (m : SortMethods) (methods : List FuncDecl) (type : String) :
    SortMethods where
  len := m.len || methods.any (·.declares type "Len")
  less := m.less || methods.any (·.declares type "Less")
  swap := m.swap || methods.any (·.declares type "Swap")

theorem seenMethods_addMethod (c : PackageContext) (f : FuncDecl) (type : String) :
    seenMethods (c.addMethod f).sortMethods type =
      (seenMethods c.sortMethods type).withAny [f] type := by
  unfold PackageContext.addMethod
  cases hrecv : f.receiverType? with
  | none => simp [SortMethods.withAny, FuncDecl.declares, hrecv]
  | some t =>
    have hseen : seenMethods (if isSortMethod f.name.name then
          seeMethod t f.name.name c.sortMethods else c.sortMethods) type =
        if type = t then (seenMethods c.sortMethods type).see f.name.name
        else seenMethods c.sortMethods type := by
      split
      · exact seenMethods_seeMethod t f.name.name type c.sortMethods
      · rename_i h
        rw [SortMethods.see_of_not_isSortMethod (by simpa using h), ite_self]
    dsimp only
    rw [hseen]
    by_cases ht : type = t
    · simp [SortMethods.withAny, FuncDecl.declares, SortMethods.see, hrecv, ht]
    · have hne : (t == type) = false := beq_eq_false_iff_ne.mpr (Ne.symm ht)
      simp [SortMethods.withAny, FuncDecl.declares, hrecv, ht, hne]

/-- Taking in methods tells of each type which of the sort methods they declare on it. -/
theorem seenMethods_foldl_addMethod (type : String) : ∀ (ms : List FuncDecl) (c : PackageContext),
    seenMethods (ms.foldl PackageContext.addMethod c).sortMethods type =
      (seenMethods c.sortMethods type).withAny ms type
  | [], _ => by simp [SortMethods.withAny]
  | m :: ms, c => by
    rw [List.foldl_cons, seenMethods_foldl_addMethod type ms, seenMethods_addMethod]
    simp [SortMethods.withAny, Bool.or_assoc]

/-- Taking in a method leaves the facts about files as they are. -/
theorem PackageContext.addMethod_frame (c : PackageContext) (f : FuncDecl) :
    (c.addMethod f).name = c.name ∧ (c.addMethod f).documented = c.documented ∧
      (c.addMethod f).generated = c.generated := by
  unfold PackageContext.addMethod
  split <;> exact ⟨rfl, rfl, rfl⟩

theorem foldl_addMethod_frame : ∀ (ms : List FuncDecl) (c : PackageContext),
    (ms.foldl PackageContext.addMethod c).name = c.name ∧
      (ms.foldl PackageContext.addMethod c).documented = c.documented ∧
      (ms.foldl PackageContext.addMethod c).generated = c.generated
  | [], _ => ⟨rfl, rfl, rfl⟩
  | m :: ms, c => by
    obtain ⟨hname, hdocumented, hgenerated⟩ := c.addMethod_frame m
    rw [List.foldl_cons, ← hname, ← hdocumented, ← hgenerated]
    exact foldl_addMethod_frame ms (c.addMethod m)

/-! ## Files -/

section Files

variable (policy : Policy)

theorem name_addFile (c : PackageContext) (f : SourceFile) :
    (c.addFile policy f).name = c.name :=
  (foldl_addMethod_frame _ _).1

theorem documented_addFile (c : PackageContext) (f : SourceFile) :
    (c.addFile policy f).documented = (c.documented || (f.packageDoc.isSome && !f.isTest)) :=
  (foldl_addMethod_frame _ _).2.1

theorem isGenerated_addFile (c : PackageContext) (f : SourceFile) (path : Path) :
    (c.addFile policy f).isGenerated path =
      (c.isGenerated path || (f.isGenerated policy && path.same f.path)) := by
  unfold PackageContext.isGenerated PackageContext.addFile
  rw [(foldl_addMethod_frame _ _).2.2]
  cases f.isGenerated policy <;> simp [Bool.or_comm]

theorem seenMethods_addFile (c : PackageContext) (f : SourceFile) (type : String) :
    seenMethods (c.addFile policy f).sortMethods type =
      (seenMethods c.sortMethods type).withAny f.methods type :=
  seenMethods_foldl_addMethod type f.methods _

theorem name_foldl_addFile : ∀ (files : List SourceFile) (c : PackageContext),
    (files.foldl (PackageContext.addFile policy) c).name = c.name
  | [], _ => rfl
  | f :: fs, c => by rw [List.foldl_cons, name_foldl_addFile fs, name_addFile]

theorem documented_foldl_addFile : ∀ (files : List SourceFile) (c : PackageContext),
    (files.foldl (PackageContext.addFile policy) c).documented =
      (c.documented || files.any fun f => f.packageDoc.isSome && !f.isTest)
  | [], _ => by simp
  | f :: fs, c => by
    rw [List.foldl_cons, documented_foldl_addFile fs, documented_addFile, List.any_cons,
      Bool.or_assoc]

theorem isGenerated_foldl_addFile (path : Path) :
    ∀ (files : List SourceFile) (c : PackageContext),
      (files.foldl (PackageContext.addFile policy) c).isGenerated path =
        (c.isGenerated path || files.any fun f => f.isGenerated policy && path.same f.path)
  | [], _ => by simp
  | f :: fs, c => by
    rw [List.foldl_cons, isGenerated_foldl_addFile path fs, isGenerated_addFile, List.any_cons,
      Bool.or_assoc]

theorem seenMethods_foldl_addFile (type : String) :
    ∀ (files : List SourceFile) (c : PackageContext),
      seenMethods (files.foldl (PackageContext.addFile policy) c).sortMethods type =
        (seenMethods c.sortMethods type).withAny (files.flatMap SourceFile.methods) type
  | [], _ => by simp [SortMethods.withAny]
  | f :: fs, c => by
    rw [List.foldl_cons, seenMethods_foldl_addFile type fs, seenMethods_addFile]
    simp [SortMethods.withAny, Bool.or_assoc]

end Files

/-! ## Packages -/

section Build

variable (files : List SourceFile) (policy : Policy)

/-- The name of a package is that of its first file. -/
theorem name_build : (PackageContext.build files policy).name =
    (files.head?.map (·.package.name)).getD "" :=
  name_foldl_addFile policy files _

/-- A package is documented if a file of it is, test files apart. -/
theorem documented_build : (PackageContext.build files policy).documented =
    files.any fun f => f.packageDoc.isSome && !f.isTest := by
  rw [PackageContext.build, documented_foldl_addFile, PackageContext.empty, Bool.false_or]

/-- A path is that of a generated file if some file there is marked. -/
theorem isGenerated_build (path : Path) : (PackageContext.build files policy).isGenerated path =
    files.any fun f => f.isGenerated policy && path.same f.path := by
  rw [PackageContext.build, isGenerated_foldl_addFile]
  rfl

/-- A type is sortable if each of the three sort methods is declared on it in some file. -/
theorem isSortable_build_iff (type : String) :
    (PackageContext.build files policy).isSortable type ↔ ∀ name ∈ ["Len", "Less", "Swap"],
      ∃ f ∈ files, ∃ m ∈ f.methods, m.declares type name := by
  rw [PackageContext.isSortable_eq, PackageContext.build, seenMethods_foldl_addFile]
  simp [SortMethods.withAny, SortMethods.complete, PackageContext.empty, seenMethods,
    SortMethods.none, and_assoc]

end Build

/-- A file is marked if a line of a comment before its package clause, without the white space at
its end, matches a marker. -/
theorem SourceFile.isGenerated_iff (f : SourceFile) (policy : Policy) : f.isGenerated policy ↔
    ∃ g ∈ f.leadingComments, ∃ line ∈ g.lines, ∃ m ∈ policy.markers,
      m.matches (trimEnd line.toList) := by
  simp [SourceFile.isGenerated, Policy.isGeneratedMarker]

end GoStyle
