import Mathlib.Logic.Function.Basic
import HdfsOperator.Core.GoMap

/-!
# Commands that copy files

A file system has directories, and a directory has files with their contents. The commands make
a directory, copy the files of a directory that have a given extension, and copy one file under
a new name. A sequence of commands stops at the first that fails. Each command has a rule by
which a postcondition is pulled back over it.
-/

namespace HdfsOperator.Directories

/-- The contents of the files of a directory, by name. -/
abbrev Files := GoMap String

/-- The directories, by path. -/
abbrev FileSystem := String → Option Files

/-- A command of the shell. -/
inductive Command
  /-- Makes a directory unless it is there. -/
  | mkdir (dir : String)
  /-- Copies the files of `dir` with the given extension to `target`. -/
  | copyAll (dir extension target : String)
  /-- Copies a file of `dir` to `target` under the given name. -/
  | copyAs (dir file target name : String)
  deriving DecidableEq

/-- The text of a command. -/
def Command.text : Command → String
  | .mkdir dir => "mkdir -p " ++ dir
  | .copyAll dir extension target => "cp " ++ dir ++ "/*" ++ extension ++ " " ++ target
  | .copyAs dir file target name =>
    "cp " ++ dir ++ "/" ++ file ++ " " ++ target ++ "/" ++ name

/-- The names that the pattern of an extension stands for: those that start with a dot are left
out. -/
def hasExtension (extension name : String) : Bool :=
  name.toList.head? != some '.' && extension.toList.isSuffixOf name.toList

/-- The entries with names that satisfy `p` are added to `old`. -/
def addWhere (p : String → Bool) (files old : Files) : Files :=
  ((files.range .stored).filter fun e => p e.1).foldl (fun m e => m.insert e.1 e.2) old

/-- What a command does; `none` when it fails. -/
def Command.exec (fs : FileSystem) : Command → Option FileSystem
  | .mkdir dir => some (Function.update fs dir (some ((fs dir).getD ∅)))
  | .copyAll dir extension target => do
    let files ← fs dir
    let old ← fs target
    if files.keys.any (hasExtension extension) then
      some (Function.update fs target (some (addWhere (hasExtension extension) files old)))
    else none
  | .copyAs dir file target name => do
    let files ← fs dir
    let content ← files.lookup file
    let old ← fs target
    some (Function.update fs target (some (old.insert name content)))

/-- What a sequence of commands does. -/
def run (fs : FileSystem) : List Command → Option FileSystem
  | [] => some fs
  | c :: cs => (c.exec fs).bind fun fs' => run fs' cs

/-- The commands end without a failure, in a state that satisfies `Q`. -/
def Ends (cs : List Command) (Q : FileSystem → Prop) (fs : FileSystem) : Prop :=
  ∃ fs', run fs cs = some fs' ∧ Q fs'

/-- A name that satisfies `p` is looked up in both, and the others in the old files only. -/
theorem lookup_addWhere (p : String → Bool) (files old : Files) (name : String) :
    (addWhere p files old).lookup name =
      if p name then (files.lookup name).or (old.lookup name) else old.lookup name := by
  have hfound := GoMap.find?_of_perm_range (List.reverse_perm (files.range .stored)) name
  have htest : (fun e : String × String => decide (p e.1 = true ∧ decide (e.1 = name) = true)) =
      fun e => p name && decide (e.1 = name) := by
    funext e
    by_cases he : e.1 = name
    · simp [he]
    · simp [he]
  rw [addWhere, GoMap.foldl_insert_lookup, ← List.filter_reverse, List.find?_filter, htest]
  cases hp : p name with
  | false =>
    have hnone : (files.range .stored).reverse.find? (fun _ => false) = none :=
      List.find?_eq_none.mpr fun _ _ => Bool.false_ne_true
    simp [hnone]
  | true =>
    simp only [Bool.true_and, hfound, if_true]
    cases files.lookup name <;> rfl

variable {cs : List Command} {Q : FileSystem → Prop} {fs : FileSystem}

theorem ends_nil (h : Q fs) : Ends [] Q fs := ⟨fs, rfl, h⟩

/-- Making a directory leaves the files that are there. -/
theorem ends_mkdir {dir : String}
    (h : Ends cs Q (Function.update fs dir (some ((fs dir).getD ∅)))) :
    Ends (.mkdir dir :: cs) Q fs := h

/-- Copying by extension needs both directories and at least one such file. -/
theorem ends_copyAll {dir extension target : String} {files old : Files}
    (hfiles : fs dir = some files) (hold : fs target = some old)
    (hany : ∃ name ∈ files, hasExtension extension name = true)
    (h : Ends cs Q (Function.update fs target
      (some (addWhere (hasExtension extension) files old)))) :
    Ends (.copyAll dir extension target :: cs) Q fs := by
  obtain ⟨fs', hrun, hQ⟩ := h
  have hkeys : files.keys.any (hasExtension extension) = true := by
    obtain ⟨name, hname, hext⟩ := hany
    exact List.any_eq_true.mpr ⟨name, AList.mem_keys.mp hname, hext⟩
  refine ⟨fs', ?_, hQ⟩
  rw [run, Command.exec, hfiles, hold]
  simp only [Option.bind_eq_bind, Option.bind_some, if_pos hkeys, hrun]

/-- Copying one file needs that file and the target directory. -/
theorem ends_copyAs {dir file target name content : String} {files old : Files}
    (hfiles : fs dir = some files) (hcontent : files.lookup file = some content)
    (hold : fs target = some old)
    (h : Ends cs Q (Function.update fs target (some (old.insert name content)))) :
    Ends (.copyAs dir file target name :: cs) Q fs := by
  obtain ⟨fs', hrun, hQ⟩ := h
  refine ⟨fs', ?_, hQ⟩
  rw [run, Command.exec, hfiles, hold]
  simp only [Option.bind_eq_bind, Option.bind_some, hcontent, hrun]

end HdfsOperator.Directories
