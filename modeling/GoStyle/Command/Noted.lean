import GoStyle.Command.Failure
import GoStyle.Go.Extract

/-!
# Work with notices

A notice tells the user of something that stops nothing: a file that was passed over, a package that
was not found, a rule that had a fault. Work on many files gives a result or a failure, and in both
cases the notices up to then: `Noted`. Steps are put in sequence by `Noted.bind`, which keeps the
notices of both and does not go on after a failure.
-/

namespace GoStyle

/-- Something that the user should know. -/
inductive Notice where
  | skipped (path : Path) (error : ExtractError)
  | packageNotFound (name : String)
  | faultyRule (rule : String) (path : Path)
deriving Repr, DecidableEq

/-- The text of a notice. -/
def Notice.text : Notice → String
  | .skipped path error => "Skipping " ++ path.text ++ ": " ++ error.message
  | .packageNotFound name =>
    "cannot find package \"" ++ name ++ "\"; pass its directory instead"
  | .faultyRule rule path =>
    "Rule " ++ rule ++ " panicked on " ++ path.text ++ "; skipping its results"

/-- The result of some work, and the notices on the way. -/
structure Noted (α : Type) where
  notices : List Notice
  result : Except Failure α

/-- A result without notices. -/
def Noted.done {α : Type} (a : α) : Noted α :=
  ⟨[], .ok a⟩

/-- A failure. -/
def Noted.failed {α : Type} (e : Failure) : Noted α :=
  ⟨[], .error e⟩

/-- The same with notices in front. -/
def Noted.noting {α : Type} (notices : List Notice) (w : Noted α) : Noted α :=
  { w with notices := notices ++ w.notices }

/-- One piece of work after the other. -/
def Noted.bind {α β : Type} (w : Noted α) (f : α → Noted β) : Noted β :=
  match w.result with
  | .ok a => (f a).noting w.notices
  | .error e => ⟨w.notices, .error e⟩

@[simp]
theorem Noted.result_noting {α : Type} (notices : List Notice) (w : Noted α) :
    (w.noting notices).result = w.result :=
  rfl

@[simp]
theorem Noted.notices_noting {α : Type} (notices : List Notice) (w : Noted α) :
    (w.noting notices).notices = notices ++ w.notices :=
  rfl

/-- A result without notices is passed on. -/
@[simp]
theorem Noted.bind_done {α β : Type} (a : α) (f : α → Noted β) : (Noted.done a).bind f = f a :=
  rfl

/-- Nothing is done after a failure. -/
@[simp]
theorem Noted.bind_failed {α β : Type} (e : Failure) (f : α → Noted β) :
    (Noted.failed e).bind f = Noted.failed e :=
  rfl

/-- The results of two pieces of work are put in sequence whatever the notices are. -/
theorem Noted.result_bind {α β : Type} (w : Noted α) (f : α → Noted β) :
    (w.bind f).result = w.result.bind fun a => (f a).result := by
  unfold Noted.bind Except.bind
  cases w.result <;> rfl

instance : Monad Noted where
  pure := Noted.done
  bind := Noted.bind

/-- A result or a failure, without notices. -/
def Noted.ofExcept {α : Type} (r : Except Failure α) : Noted α :=
  ⟨[], r⟩

/-- Read and analyse files. Those that cannot be analysed are passed over; one that cannot be read
is a failure. -/
def Workdir.load (w : Workdir) : List Path → Noted (List SourceFile)
  | [] => .done []
  | p :: ps =>
    match w.read p with
    | .error e => .failed (.unreadableSource ⟨p, e⟩)
    | .ok text =>
      match SourceFile.ofText p text with
      | .error e => (w.load ps).noting [.skipped p e]
      | .ok file => (w.load ps).bind fun files => .done (file :: files)

end GoStyle
