import Mathlib.Data.List.Basic
import ParseTree.Command.Run

/-!
# What is said of a failure

A command that fails says why.  Here the texts are written out, so that what is said can be told
without the functions that put it together.

* **Headlines** — a report begins with a line that has its message (`render_eq_headline`), since no
  message is empty (`TableError.report_message_ne`, `Json.ReadError.report_message_ne`).
* **Announcements** — `Announces`: the text for each failure.  It is the message alone
  (`Announces.of_message`) or stands behind a report (`Announces.of_report`).
-/

namespace ParseTree

/-! ## Headlines -/

namespace Report

namespace Row

lemma paintFrom_same (ink : Ink) (done : String) (text : List Char) (rest : Row) :
    paintFrom ink done (ofText ink text ++ rest)
      = paintFrom ink (done ++ String.ofList text) rest := by
  induction text generalizing done with
  | nil => simp [ofText]
  | cons c text ih =>
      have hcells : ofText ink (c :: text) = ⟨c, ink⟩ :: ofText ink text := rfl
      rw [hcells, List.cons_append, paintFrom, if_pos rfl, ih, String.push_eq_append,
        String.ofList_cons, String.append_assoc]

/-- Where the ink changes, one run is closed and the next one is opened. -/
lemma paintFrom_other {ink next : Ink} (hink : next ≠ ink) (done : String) {text : List Char}
    (htext : text ≠ []) (rest : Row) :
    paintFrom ink done (ofText next text ++ rest)
      = paintFrom next (done ++ ink.closing ++ next.opening ++ String.ofList text) rest := by
  obtain ⟨c, text, rfl⟩ := List.exists_cons_of_ne_nil htext
  have hcells : ofText next (c :: text) = ⟨c, next⟩ :: ofText next text := rfl
  rw [hcells, List.cons_append, paintFrom, if_neg hink, paintFrom_same, String.push_eq_append,
    String.ofList_cons, ← String.append_assoc]

end Row

/-- The line of a message. -/
def headline (message : String) : String :=
  "\x1b[1m\x1b[91merror\x1b[0m: \x1b[1m" ++ message ++ "\x1b[0m\n"

lemma paint_messageRow {message : String} (hmessage : message ≠ "") :
    (messageRow message).paint true ++ "\n" = headline message := by
  have htext : message.toList ≠ [] := by simpa using hmessage
  have hfull : ¬ message.isEmpty = true := by rwa [String.isEmpty_iff]
  have hrow : messageRow message = Row.ofText .accent ['e', 'r', 'r', 'o', 'r'] ++
      (Row.ofText .plain [':', ' '] ++ (Row.ofText .strong message.toList ++ [])) := by
    rw [messageRow, if_neg hfull, Row.add, Row.add, List.append_nil, List.append_assoc]
  have hopening : "" ++ Ink.plain.closing ++ Ink.accent.opening ++
      String.ofList ['e', 'r', 'r', 'o', 'r'] ++ Ink.accent.closing ++ Ink.plain.opening ++
      String.ofList [':', ' '] ++ Ink.plain.closing ++ Ink.strong.opening
        = "\x1b[1m\x1b[91merror\x1b[0m: \x1b[1m" := by decide
  have hclosing : Ink.strong.closing ++ "\n" = "\x1b[0m\n" := by decide
  rw [Row.paint, if_pos rfl, hrow, Row.paintFrom_other (by decide) _ (by simp),
    Row.paintFrom_other (by decide) _ (by simp), Row.paintFrom_other (by decide) _ htext,
    Row.paintFrom, String.ofList_toList, hopening, String.append_assoc, hclosing]
  rfl

/-- A report begins with the line of its message. -/
lemma render_eq_headline {r : Report} (hmessage : r.message ≠ "") (file : SourceFile) :
    ∃ rest, r.render true file = headline r.message ++ rest := by
  obtain ⟨below, hne, hrows⟩ :
      ∃ below, below ≠ [] ∧ r.rows file = messageRow r.message :: below := by
    refine ⟨_, ?_, rfl⟩
    split <;> simp
  have hpainted : below.map (Row.paint true) ≠ [] := by simpa using hne
  rw [render, hrows, List.map_cons, String.intercalate_cons_of_ne_nil hpainted,
    paint_messageRow hmessage]
  exact ⟨_, rfl⟩

end Report

lemma append_ne_empty {s : String} (hs : s ≠ "") (t : String) : s ++ t ≠ "" :=
  fun h => hs (String.append_eq_empty_iff.mp h).1

lemma LineFault.message_ne (fault : LineFault) : fault.message ≠ "" := by
  cases fault with
  | noEquals line => exact append_ne_empty (append_ne_empty (by simp) _) _
  | missingName => decide
  | badValue name f => exact append_ne_empty (append_ne_empty (append_ne_empty (by simp) _) _) _
  | aboveMax name kind =>
      have hname : "value for `" ++ name ++ "` is out of range: " ≠ "" :=
        append_ne_empty (append_ne_empty (by simp) _) _
      exact append_ne_empty (append_ne_empty (append_ne_empty hname _) _) _

lemma TableError.report_message_ne (e : TableError) : e.report.message ≠ "" :=
  e.fault.message_ne

lemma Json.Cause.message_ne (cause : Json.Cause) : cause.message ≠ "" := by
  cases cause
  case wrongType => exact append_ne_empty (append_ne_empty (append_ne_empty (by simp) _) _) _
  case wrongValue => exact append_ne_empty (append_ne_empty (append_ne_empty (by simp) _) _) _
  case missingField => exact append_ne_empty (append_ne_empty (by simp) _) _
  case duplicateField => exact append_ne_empty (append_ne_empty (by simp) _) _
  case unknownVariant => exact append_ne_empty (append_ne_empty (by simp) _) _
  all_goals decide

lemma Json.ReadError.report_message_ne (e : Json.ReadError) (file : SourceFile) :
    (e.report file).message ≠ "" := by
  have hcause := e.cause.message_ne
  simp only [report, message]
  split
  · simp [String.append_eq_empty_iff]
  · exact hcause

/-! ## Announcements -/

/-- What is said of a fault of a file. -/
inductive FileFault.Says : FileFault → String → Prop
  | notFound : Says .notFound "No such file or directory (os error 2)"
  | isDirectory : Says .isDirectory "Is a directory (os error 21)"
  | notDirectory : Says .notDirectory "Not a directory (os error 20)"
  | nameTooLong : Says .nameTooLong "File name too long (os error 36)"
  | notUtf8 : Says .notUtf8 "stream did not contain valid UTF-8"
  | other (reason : String) : Says (.other reason) reason

lemma FileFault.says_message (fault : FileFault) : fault.Says fault.message := by
  cases fault <;> constructor

namespace Command

/-- What is said of a failure. -/
inductive Announces : Failure → String → Prop
  | unreadable {path reason : String} {fault : FileFault} (hreason : fault.Says reason) :
      Announces (.unreadable path fault)
        ("Error: failed to read `" ++ path ++ "`\n\nCaused by:\n    " ++ reason ++ "\n")
  | uncreatable {path reason : String} {fault : FileFault} (hreason : fault.Says reason) :
      Announces (.uncreatable path fault)
        ("Error: failed to create `" ++ path ++ "`\n\nCaused by:\n    " ++ reason ++ "\n")
  | badTable {file : SourceFile} {report : Report} {rest : String}
      (hreport : report.render true file = Report.headline report.message ++ rest) :
      Announces (.load (.badTable file report)) (Report.headline report.message ++ rest ++
        "\nError: could not read token definitions from `" ++ file.path ++ "`\n")
  | badTree {file : SourceFile} {report : Report} {rest : String}
      (hreport : report.render true file = Report.headline report.message ++ rest) :
      Announces (.load (.badTree file report)) (Report.headline report.message ++ rest ++
        "\nError: could not read a parse tree from `" ++ file.path ++ "`\n")
  | twoKinds {name : String} {first second : Kind} :
      Announces (.load (.declaration (.twoKinds name first second)))
        ("Error: token `" ++ name ++ "` is declared as both " ++ first.text ++ " and " ++
          second.text ++ "\n")
  | aboveMax {name : String} {kind : Kind} :
      Announces (.load (.declaration (.aboveMax name kind)))
        ("Error: token `" ++ name ++ "` has kind " ++ kind.text ++
          ", above the maximum of 65535\n")
  | malformed {label : String} :
      Announces (.label (.malformed label))
        ("Error: malformed structural label `" ++ label ++ "`: expected a `Context` suffix\n")
  | unknownName {name : String} :
      Announces (.label (.unknownName name)) ("Error: unknown token name `" ++ name ++ "`\n")

/-- A failure without a report is announced by its message alone. -/
lemma Announces.of_message {f : Failure} {text message : String} (h : Announces f text)
    (hreport : f.report? = none) (hmessage : f.message = message)
    (htext : text.toList = ("Error: " ++ message ++ "\n").toList) : Announces f f.text := by
  have hsaid : f.text = "Error: " ++ message ++ "\n" := by simp [Failure.text, hreport, hmessage]
  rwa [hsaid, ← String.toList_inj.mp htext]

/-- A failure with a report is announced by the report and its message. -/
lemma Announces.of_report {f : Failure} {file : SourceFile} {report : Report}
    {text message : String} (h : Announces f text) (hreport : f.report? = some (file, report))
    (hmessage : f.message = message)
    (htext : text.toList = (report.render true file ++ "\nError: " ++ message ++ "\n").toList) :
    Announces f f.text := by
  have hsaid : f.text.toList
      = (report.render true file ++ "\nError: " ++ message ++ "\n").toList := by
    simp [Failure.text, hreport, hmessage]
  rwa [← String.toList_inj.mp (htext.trans hsaid.symm)]

lemma announces_unreadable (path : String) (fault : FileFault) :
    Announces (.unreadable path fault) (Failure.unreadable path fault).text := by
  have hmessage : (Failure.unreadable path fault).message = fileMessage "read" path fault := rfl
  exact (Announces.unreadable fault.says_message).of_message rfl hmessage (by simp [fileMessage])

lemma announces_uncreatable (path : String) (fault : FileFault) :
    Announces (.uncreatable path fault) (Failure.uncreatable path fault).text := by
  have hmessage : (Failure.uncreatable path fault).message = fileMessage "create" path fault := rfl
  exact (Announces.uncreatable fault.says_message).of_message rfl hmessage (by simp [fileMessage])

lemma announces_badTable {file : SourceFile} {report : Report} (hne : report.message ≠ "") :
    Announces (.load (.badTable file report)) (Failure.load (.badTable file report)).text := by
  obtain ⟨rest, hrender⟩ := Report.render_eq_headline hne file
  have hmessage : (Failure.load (.badTable file report)).message
      = "could not read token definitions from `" ++ file.path ++ "`" := rfl
  refine (Announces.badTable hrender).of_report rfl hmessage ?_
  simp [hrender]

lemma announces_badTree {file : SourceFile} {report : Report} (hne : report.message ≠ "") :
    Announces (.load (.badTree file report)) (Failure.load (.badTree file report)).text := by
  obtain ⟨rest, hrender⟩ := Report.render_eq_headline hne file
  have hmessage : (Failure.load (.badTree file report)).message
      = "could not read a parse tree from `" ++ file.path ++ "`" := rfl
  refine (Announces.badTree hrender).of_report rfl hmessage ?_
  simp [hrender]

lemma announces_declaration (e : DeclarationError) :
    Announces (.load (.declaration e)) (Failure.load (.declaration e)).text := by
  cases e with
  | twoKinds name first second =>
      have hmessage : (Failure.load (.declaration (.twoKinds name first second))).message
          = "token `" ++ name ++ "` is declared as both " ++ first.text ++ " and " ++
            second.text := rfl
      exact Announces.twoKinds.of_message rfl hmessage (by simp)
  | aboveMax name kind =>
      have hmessage : (Failure.load (.declaration (.aboveMax name kind))).message
          = "token `" ++ name ++ "` has kind " ++ kind.text ++ ", above the maximum of " ++
            maxKind.text := rfl
      exact Announces.aboveMax.of_message rfl hmessage (by simp [maxKind_text])

lemma announces_label (e : LabelError) : Announces (.label e) (Failure.label e).text := by
  cases e with
  | malformed label =>
      have hmessage : (Failure.label (.malformed label)).message
          = "malformed structural label `" ++ label ++ "`: expected a `Context` suffix" := rfl
      exact Announces.malformed.of_message rfl hmessage (by simp)
  | unknownName name =>
      have hmessage : (Failure.label (.unknownName name)).message
          = "unknown token name `" ++ name ++ "`" := rfl
      exact Announces.unknownName.of_message rfl hmessage (by simp)

end Command

end ParseTree
