import CursorDoc.Proofs.Command.Insert

/-!
# Files in a session

A session is a run of requests on one directory. Whatever the requests are,
and in whatever order they come, only an insertion in place that ends with
status zero changes a file, and it changes that one file.
-/

namespace CursorDoc

/-- The content is at the one place the file stands for, and all other places are as they were. Every path that leads
to that place shows the content, and every other path shows what it showed. -/
structure Directory.Writes (directory : Directory) (file : Path) (content : Bytes) (after : Directory) : Prop where
  lookup? : ∀ place, after.lookup? place =
    if place = placeOf file.parts then some (.file content) else directory.lookup? place
  view : ∀ path, after.view path = renew content (placeOf path.parts = placeOf file.parts) (directory.view path)

/-- An insertion in place, answered with status zero. Arguments that ask for help or for the version are answered with
status zero too, but what they ask for is no insertion. -/
def Request.InsertsInPlace (request : Request) (response : Response) (file : Path) (line : Int) (doc : Path)
    (language : Option Text) : Prop :=
  ∃ arguments outcome, request = .command arguments ∧ response = .command (.ok outcome) ∧
    Command.ofArguments arguments = .ok (.insert file line doc language true) ∧ outcome.status = 0

/-- A run of requests, from the directory before them to the one after them. A request that is an insertion in place
with status zero writes the source with the documentation spliced in, made of what the directory holds by then; all
others leave the directory as it is, unless something is put there from outside. -/
inductive SessionRun : Directory → List Request → List Response → Directory → Prop where
  | done {directory : Directory} : SessionRun directory [] [] directory
  | placed {directory last : Directory} {path : Text} {entry : Entry} {requests : List Request}
      {responses : List Response} :
      SessionRun (directory.put (Path.ofText path).parts entry) requests responses last →
      SessionRun directory (.put path entry :: requests) (.done :: responses) last
  | kept {directory last : Directory} {request : Request} {response : Response} {requests : List Request}
      {responses : List Response} :
      (∀ path entry, request ≠ .put path entry) →
      (∀ file line doc language, ¬ request.InsertsInPlace response file line doc language) →
      SessionRun directory requests responses last →
      SessionRun directory (request :: requests) (response :: responses) last
  | written {directory last : Directory} {request : Request} {response : Response} {requests : List Request}
      {responses : List Response} {file doc : Path} {line : Int} {language : Option Text}
      (insertion : Insertion directory.view file line doc language) :
      request.InsertsInPlace response file line doc language →
      directory.Writes file (Utf8.encode insertion.updated)
        (directory.write file (Utf8.encode insertion.updated)) →
      SessionRun (directory.write file (Utf8.encode insertion.updated)) requests responses last →
      SessionRun directory (request :: requests) (response :: responses) last

def Directory.afterSession (directory : Directory) (requests : List Request) : Directory :=
  requests.foldl (fun directory request => (request.answer directory).2) directory

/-! ## One step -/

section
variable {directory : Directory}

theorem Insertion.writes {file doc : Path} {line : Int} {language : Option Text}
    (insertion : Insertion directory.view file line doc language) :
    directory.Writes file (Utf8.encode insertion.updated)
      (directory.write file (Utf8.encode insertion.updated)) := by
  obtain ⟨content, hfile, -⟩ := View.readText_eq_ok_iff.mp insertion.read
  exact ⟨Directory.lookup?_write hfile, Directory.view_write hfile⟩

theorem Request.InsertsInPlace.exists_insertion {request : Request} {file doc : Path} {line : Int}
    {language : Option Text} (h : request.InsertsInPlace (request.answer directory).1 file line doc language) :
    ∃ insertion : Insertion directory.view file line doc language,
      (request.answer directory).2 = directory.write file (Utf8.encode insertion.updated) := by
  obtain ⟨arguments, outcome, rfl, hresponse, hcommand, hstatus⟩ := h
  obtain rfl : runInsert directory.view file line doc language true = outcome :=
    Except.ok.inj ((runArguments_of_eq_ok hcommand).symm.trans (Response.command.inj hresponse))
  obtain ⟨insertion⟩ := CursorDoc.exists_insertion hstatus
  obtain ⟨_, hanswer, -⟩ := insertion.answer_inPlace hcommand
  exact ⟨insertion, congrArg Prod.snd hanswer⟩

/-- All other requests leave the directory as it is, unless something is put there from outside. -/
theorem answer_kept {request : Request} (hput : ∀ path entry, request ≠ .put path entry)
    (h : ∀ file line doc language, ¬ request.InsertsInPlace (request.answer directory).1 file line doc language) :
    (request.answer directory).2 = directory := by
  cases request with
  | locateFile path cursor language settings => rfl
  | loadSettings root => rfl
  | tool name arguments => rfl
  | get path => rfl
  | put path entry => exact absurd rfl (hput path entry)
  | command arguments =>
    change directory.after (runArguments directory.view arguments) = directory
    cases hcommand : Command.ofArguments arguments with
    | error error =>
      unfold runArguments
      rw [hcommand]
      rfl
    | ok command =>
      have hrun : runArguments directory.view arguments = .ok (command.run directory.view) :=
        runArguments_of_eq_ok hcommand
      have hnone : (command.run directory.view).written = none := by
        refine Command.written_eq_none fun file line doc language hinsert hstatus => ?_
        refine h file line doc language ⟨arguments, _, rfl, congrArg Response.command hrun, ?_, hstatus⟩
        rw [hcommand, hinsert]
      rw [hrun, after_eq, hnone]
      rfl

end

/-! ## Runs -/

/-- What is at a place that no insertion in place writes to is there at the end as it was at the start. -/
theorem SessionRun.lookup?_eq {directory last : Directory} {requests : List Request} {responses : List Response}
    {place : List Text} (run : SessionRun directory requests responses last)
    (hput : ∀ path entry, .put path entry ∉ requests)
    (h : ∀ request response file line doc language, (request, response) ∈ requests.zip responses →
      request.InsertsInPlace response file line doc language → place ≠ Directory.placeOf file.parts) :
    last.lookup? place = directory.lookup? place := by
  induction run with
  | done => rfl
  | placed => exact absurd List.mem_cons_self (hput _ _)
  | kept _ _ _ ih =>
    refine ih (fun path entry hmem => hput path entry (List.mem_cons_of_mem _ hmem)) ?_
    exact fun request response file line doc language hmem =>
      h request response file line doc language (List.mem_cons_of_mem _ hmem)
  | written _ hinserts hwrites _ ih =>
    rw [ih (fun path entry hmem => hput path entry (List.mem_cons_of_mem _ hmem)), hwrites.lookup?, if_neg]
    · exact h _ _ _ _ _ _ List.mem_cons_self hinserts
    · exact fun request response file line doc language hmem =>
        h request response file line doc language (List.mem_cons_of_mem _ hmem)

/-- **Only insertions in place change files.** In every session each insertion in place that ends with status zero
writes to its file, and to nothing else, what the splice gives for the text it holds; every other request leaves all
files as they are. -/
theorem sessionRun_runSession (directory : Directory) (requests : List Request) :
    SessionRun directory requests (runSession directory requests) (directory.afterSession requests) := by
  induction requests generalizing directory with
  | nil => exact .done
  | cons request requests ih =>
    change SessionRun directory (request :: requests)
      ((request.answer directory).1 :: runSession (request.answer directory).2 requests)
      ((request.answer directory).2.afterSession requests)
    by_cases hput : ∃ path entry, request = .put path entry
    · obtain ⟨path, entry, rfl⟩ := hput
      exact .placed (ih _)
    by_cases hinserts : ∃ file line doc language,
        request.InsertsInPlace (request.answer directory).1 file line doc language
    · obtain ⟨file, line, doc, language, hinserts⟩ := hinserts
      obtain ⟨insertion, hafter⟩ := hinserts.exists_insertion
      rw [hafter]
      exact .written insertion hinserts insertion.writes (ih _)
    · simp only [not_exists] at hput hinserts
      rw [answer_kept hput hinserts]
      exact .kept hput hinserts (ih _)

end CursorDoc
