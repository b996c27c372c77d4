import Sexpr.Proofs.Fixture.Collect
import Sexpr.Proofs.Text.Lines
import Sexpr.Session
/-!
What a session prints. Main statements: a fixture gives a summary exactly if it is a text whose tests all
pass; and behind the summary every line of the input is answered by itself, up to the first that is not
valid UTF-8 or the end of the input.
-/
namespace Sexpr.Session

def describeOrNothing (line : Text) : Text :=
  match Form.read defaultDepthLimit line with
  | .ok (some form) => form.dump.print
  | _ => []

/-- What a line is answered with. No other line has a part in it. -/
def answer (settings : Settings) (line : Text) : Text :=
  if settings.describes then describeOrNothing line else respondOrNothing line

def complaint? (line : Text) : Option String :=
  match Form.read defaultDepthLimit line with
  | .error fault => some s!">> ERROR: {fault.message ReadFault.message}\n"
  | .ok _ => none

def decoded : List (List UInt8) → List Text
  | [] => []
  | line :: lines =>
    match decodeUtf8? line with
    | some text => text :: decoded lines
    | none => []

theorem reply_eq (settings : Settings) (line : Text) :
    reply settings line =
      ⟨String.ofList (answer settings line) ++ "\n", (complaint? line).getD ""⟩ := by
  -- A fault, no form, or a form; shown or described.
  rcases found : Form.read defaultDepthLimit line with fault | _ | form <;>
    cases describes : settings.describes <;>
      simp [reply, answer, complaint?, describe, describeOrNothing, respond, respondOrNothing, shown,
        evaluate, Except.map, describes, found]

theorem join_complaints (text : Text) (texts : List Text) :
    String.join ((text :: texts).filterMap complaint?) =
      (complaint? text).getD "" ++ String.join (texts.filterMap complaint?) := by
  cases complaint : complaint? text with
  | none => simp [complaint]
  | some message => simp [complaint]

/-- What is printed for some texts, for each its answer on a line of its own behind the prompt. -/
def answered (settings : Settings) (texts : List Text) : String :=
  String.join (texts.map fun text =>
    settings.prompt ++ String.ofList (answer settings text) ++ "\n")

theorem converse_eq (settings : Settings) (lines : List (List UInt8)) :
    converse settings lines =
      ⟨answered settings (decoded lines) ++ settings.prompt ++
          (if (decoded lines).length = lines.length then "\n" else ""),
        String.join ((decoded lines).filterMap complaint?) ++
          (if (decoded lines).length = lines.length then ""
            else "Error: stream did not contain valid UTF-8\n"),
        if (decoded lines).length = lines.length then 0 else 1⟩ := by
  induction lines with
  | nil => simp [converse, decoded, answered]
  | cons line lines ih =>
      cases decodes : decodeUtf8? line with
      | none =>
          have message : s!"Error: {Fixture.LoadCause.notUtf8.message}\n" =
              "Error: stream did not contain valid UTF-8\n" := rfl
          simp [converse, replyToBytes, decoded, answered, decodes, message]
      | some text =>
          have answers : replyToBytes settings line =
              .ok ⟨String.ofList (answer settings text) ++ "\n", (complaint? text).getD ""⟩ := by
            simp [replyToBytes, decodes, reply_eq]
          simp [converse, decoded, answered, decodes, answers, ih, join_complaints, String.append_assoc]

/-- A fixture that is not there, or one whose tests all pass, and what is reported of it. -/
inductive Opens : Option Fixture.File → String → Prop
  | alone : Opens none ""
  | passed {file : Fixture.File} {bytes : List UInt8} {text : Text} : file.contents = .ok bytes →
      decodeUtf8? bytes = some text → (∀ test ∈ Fixture.collect text, test.Passes) →
      Opens (some file) s!";; {(Fixture.collect text).length} tests passed\n"

theorem report_eq_ok_iff {file : Fixture.File} {summary : String} :
    report file = .ok summary ↔ Opens (some file) summary := by
  constructor
  · intro reports
    cases contents : file.contents with
    | error cause => simp [report, Fixture.load, contents] at reports
    | ok bytes =>
        cases decodes : decodeUtf8? bytes with
        | none => simp [report, Fixture.load, contents, decodes] at reports
        | some text =>
            cases runs : Fixture.run file.path (Fixture.collect text) with
            | error failure => simp [report, Fixture.load, contents, decodes, runs] at reports
            | ok count =>
                have passing := Fixture.run_eq_ok_iff.mp runs
                have same : s!";; {count} tests passed\n" = summary := by
                  simpa [report, Fixture.load, contents, decodes, runs] using reports
                rw [← same, ← passing.2]
                exact .passed contents decodes passing.1
  · intro opens
    cases opens with
    | passed contents decodes passing =>
        have runs : Fixture.run file.path _ = .ok _ := Fixture.run_eq_ok_iff.mpr ⟨passing, rfl⟩
        simp [report, Fixture.load, contents, decodes, runs]

section Transcript
variable {settings : Settings} {fixture : Option Fixture.File} {input : List UInt8} {summary : String}

theorem transcript_of_opens (opens : Opens fixture summary) (converses : settings.converses = true) :
    transcript settings fixture input =
      { converse settings (inputLines input) with
        err := summary ++ (converse settings (inputLines input)).err } := by
  cases fixture with
  | none =>
      cases opens
      simp [transcript, converses]
  | some file => simp [transcript, report_eq_ok_iff.mpr opens, converses]

theorem transcript_without_conversation (opens : Opens fixture summary)
    (silent : settings.converses = false) : transcript settings fixture input = ⟨"", summary, 0⟩ := by
  cases fixture with
  | none =>
      cases opens
      simp [transcript, silent]
  | some file => simp [transcript, report_eq_ok_iff.mpr opens, silent]

theorem transcript_refused (refused : ∀ summary, ¬ Opens fixture summary) :
    ∃ message, transcript settings fixture input = ⟨"", message, 1⟩ := by
  cases fixture with
  | none => exact absurd .alone (refused "")
  | some file =>
      cases reports : report file with
      | error message => exact ⟨message, by simp [transcript, reports]⟩
      | ok summary => exact absurd (report_eq_ok_iff.mp reports) (refused summary)

end Transcript

/-- A session answers line by line. Each line that is decoded has its answer behind a prompt, and its
complaint if it cannot be read, whatever the lines around it are; one more prompt stands before the end of
the input or before the first line that is not valid UTF-8, which ends the session in an error. Without
conversation there is the summary of the fixture only, and without a fixture that passes an error only. -/
theorem answers_line_by_line (settings : Settings) (fixture : Option Fixture.File)
    (input : List UInt8) :
    (∀ summary lines, Opens fixture summary → settings.converses = true →
      CutAfter (· = 10) input lines →
      transcript settings fixture input =
        ⟨answered settings (decoded lines) ++ settings.prompt ++
            (if (decoded lines).length = lines.length then "\n" else ""),
          summary ++ (String.join ((decoded lines).filterMap complaint?) ++
            (if (decoded lines).length = lines.length then ""
              else "Error: stream did not contain valid UTF-8\n")),
          if (decoded lines).length = lines.length then 0 else 1⟩) ∧
    (∀ summary, Opens fixture summary → settings.converses = false →
      transcript settings fixture input = ⟨"", summary, 0⟩) ∧
    ((∀ summary, ¬ Opens fixture summary) →
      ∃ message, transcript settings fixture input = ⟨"", message, 1⟩) := by
  refine ⟨?_, ?_, transcript_refused⟩
  · intro summary lines opens converses cut
    have same : inputLines input = lines := cutAfter_iff.mp cut
    rw [transcript_of_opens opens converses, same, converse_eq]
  · intro summary opens silent
    exact transcript_without_conversation opens silent

theorem answers_behind_open_list :
    transcript ⟨"> ", false, true⟩ none [40, 10, 49, 10, 255, 10, 50] =
      ⟨"> \n> 1\n> ", ">> ERROR: expected token 'RightParen', got token EOF @2.0\n" ++
        "Error: stream did not contain valid UTF-8\n", 1⟩ := by
  have cut : CutAfter (fun byte : UInt8 => byte = 10) ([40] ++ 10 :: ([49] ++ 10 :: ([255] ++ 10 :: [50])))
      [[40, 10], [49, 10], [255, 10], [50]] :=
    .ended (by simp) rfl (.ended (by simp) rfl (.ended (by simp) rfl (.unended (by simp) (by simp))))
  have texts : decoded [[40, 10], [49, 10], [255, 10], [50]] = ["(\n".toList, "1\n".toList] := by
    decide +kernel
  have answers := (answers_line_by_line ⟨"> ", false, true⟩ none _).1 "" _ .alone rfl cut
  rw [texts] at answers
  refine answers.trans ?_
  decide +kernel

end Sexpr.Session
