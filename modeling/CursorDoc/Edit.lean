import CursorDoc.Failure

/-!
# Edit runs

A run of steps on one text. Each step locates the function at a cursor in the
text as it is by then; a step with documentation puts it there.
-/

namespace CursorDoc

structure EditStep where
  cursor : Int
  doc : Option Text
deriving DecidableEq, Repr

inductive EditOutcome where
  /-- The function at the cursor; the text stays as it is. -/
  | seen (record : Option Record)
  /-- The function as it was found, and the text after the documentation was put there. -/
  | written (record : Record) (source : Text)
  | failed (failure : Failure)
deriving DecidableEq, Repr

def editStep (language : Text) (settings : Settings) (source : Text) (step : EditStep) :
    EditOutcome :=
  match locate (.text source) step.cursor language settings, step.doc with
  | .error fault, _ => .failed (.number fault)
  | .ok (some record), some doc =>
    match splice source record doc with
    | .ok updated => .written record updated
    | .error error => .failed (.splice error)
  | .ok found, _ => .seen found

def EditOutcome.sourceAfter (source : Text) : EditOutcome → Text
  | .written _ updated => updated
  | _ => source

def edit (language : Text) (settings : Settings) : Text → List EditStep → List EditOutcome
  | _, [] => []
  | source, step :: steps =>
    let outcome := editStep language settings source step
    outcome :: edit language settings (outcome.sourceAfter source) steps

end CursorDoc
