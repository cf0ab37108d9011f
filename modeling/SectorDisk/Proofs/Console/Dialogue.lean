import SectorDisk.Proofs.Console.Launch
import SectorDisk.Proofs.Console.Verdict
import SectorDisk.Proofs.History

/-!
# Dialogues

A dialogue takes the lines of its input one after the other, each with what the lines before made
of the device.  A line that is taken leaves the device ready for the next one, with its buffers and
its protection as they were unless the line got its way (`Session.Takes.spared`).  The dialogue ends
with the input, with a blank line or a word for leaving, with a request for help, or with a line
whose quotes are not closed: that failure is not reported like the others, and ends the program.
-/

namespace SectorDisk.Console

/-! ## §1 Lines -/

/-- A line without the blanks at its ends. -/
def stripped (raw : String) : String :=
  String.ofList (Text.strip raw.toList)

/-- The line ends a dialogue: it is blank, or a word for leaving. -/
def Leaves (raw : String) : Prop :=
  (stripped raw).isEmpty = true ∨ isExit (stripped raw) = true

/-- The line is a command line, and this is what its quotes leave of it: its words, or nothing where
they are unfinished. -/
structure Splits (raw : String) (words : Except Text.Words.Unfinished (List String)) : Prop where
  stays : ¬ Leaves raw
  plain : isHelp (stripped raw) = false
  split : Text.Words.split (stripped raw) = words

/-- The words of the line are read as this. -/
def Says (raw : String) (meaning : Except Stop Invocation) : Prop :=
  ∃ words, Splits raw (.ok words) ∧ Invocation.read words = meaning

namespace Session

/-- The line is answered, and the dialogue goes on with the other session. -/
inductive Takes (s : Session) (raw : String) : Session → Prop
  | manual (hstays : ¬ Leaves raw) (hhelp : isHelp (stripped raw) = true) :
    Takes s raw (s.print (ended programForm.helpLines))
  | misuse {form : Form} {how : Misuse} (hmeans : Says raw (.error (.misuse form how))) :
    Takes s raw ((s.complain (Stop.misuse form how).err).complain (ended ["Error: 2"]))
  | idle {inv : Invocation} (hmeans : Says raw (.ok inv)) (hnone : inv.request = none) :
    Takes s raw (s.print (ended [noCommandLine]))
  | request {inv : Invocation} {r : Request} (hmeans : Says raw (.ok inv))
      (hrequest : inv.request = some r) :
    Takes s raw (s.execute r)

/-- What follows a line. -/
inductive Answers (s : Session) (raw : String) : Next → Prop
  | leaving (hleaves : Leaves raw) : Answers s raw (.over s)
  | taken {s' : Session} (htakes : s.Takes raw s') : Answers s raw (.again s')
  | help {form : Form} (hmeans : Says raw (.error (.help form))) :
    Answers s raw (.leave (s.print (ended form.helpLines)))
  | unfinished {u : Text.Words.Unfinished} (hsplits : Splits raw (.error u)) :
    Answers s raw (.fail s (unfinishedFailure u))

variable {s s' s'' : Session} {raw : String} {rest done : List String}

theorem print_empty (s : Session) : s.print "" = s := by
  rw [print, String.append_empty]

theorem complain_empty (s : Session) : s.complain "" = s := by
  rw [complain, String.append_empty]

theorem words_answers {words : List String} (hsplits : Splits raw (.ok words)) :
    s.Answers raw (s.words words) := by
  cases hread : Invocation.read words with
  | error stop =>
    cases stop with
    | help form =>
      -- a help text goes to the first stream, the second gets nothing
      have hleft : s.words words = .leave ((s.print (ended form.helpLines)).complain "") := by
        simp only [Session.words, obey, hread]
        rfl
      rw [hleft, complain_empty]
      exact .help ⟨words, hsplits, hread⟩
    | misuse form how =>
      have htwo : "Error: " ++ toString 2 = "Error: 2" := by decide
      have hcode : (Stop.misuse form how).code = 2 := rfl
      have hout : (Stop.misuse form how).out = "" := rfl
      simp only [Session.words, obey, hread, hcode, hout, print_empty, htwo,
        if_neg (Nat.succ_ne_zero 1)]
      exact .taken (.misuse ⟨words, hsplits, hread⟩)
  | ok inv =>
    cases hrequest : inv.request with
    | none =>
      simp only [Session.words, obey, hread, hrequest]
      exact .taken (.idle ⟨words, hsplits, hread⟩ hrequest)
    | some r =>
      simp only [Session.words, obey, hread, hrequest]
      exact .taken (.request ⟨words, hsplits, hread⟩ hrequest)

theorem line_answers (s : Session) (raw : String) : s.Answers raw (s.line raw) := by
  unfold line
  dsimp only
  split
  · rename_i hleaves
    exact .leaving (Bool.or_eq_true_iff.mp hleaves)
  · rename_i hstays
    have hstays' : ¬ Leaves raw := fun hleaves => hstays (Bool.or_eq_true_iff.mpr hleaves)
    split
    · rename_i hhelp
      exact .taken (.manual hstays' hhelp)
    · rename_i hhelp
      have hplain : isHelp (stripped raw) = false := Bool.eq_false_iff.mpr hhelp
      split
      · rename_i u hsplit
        exact .unfinished ⟨hstays', hplain, hsplit⟩
      · rename_i words hsplit
        exact words_answers ⟨hstays', hplain, hsplit⟩

/-! ## §2 What a line leaves -/

theorem execute_host (s : Session) (r : Request) :
    (s.execute r).host = (r.act s.defaultPath { host := s.host, sink := s.sink }).2.host := by
  cases hrun : r.act s.defaultPath { host := s.host, sink := s.sink } with
  | mk result stage =>
    cases result with
    | ok _ => rw [execute_of_ok hrun]
    | error e => rw [execute_of_error hrun]

/-- The device is ready for the next line. -/
theorem Takes.ready (htakes : s.Takes raw s') (hready : s.host.Ready) : s'.host.Ready := by
  cases htakes with
  | manual | misuse | idle => exact hready
  | request =>
    rename_i inv r hmeans hrequest
    have hkept := r.act_keepsReady s.defaultPath { host := s.host, sink := s.sink } hready
    rw [execute_host]
    exact hkept

/-- What a line leaves as it was, unless it is that of a demonstration or its call succeeded. -/
theorem Takes.spared (htakes : s.Takes raw s') (hready : s.host.Ready) :
    s.host.Spared s'.host ∨ ∃ inv r, Says raw (.ok inv) ∧ inv.request = some r ∧
      ∀ op, r.call? = some op → s.Confirms r op s' := by
  cases htakes with
  | manual | misuse | idle => exact .inl (.refl s.host)
  | @request inv r hmeans hrequest =>
    cases hcall : r.call? with
    -- a demonstration is no single call, so that nothing is said of it
    | none => exact .inr ⟨inv, r, hmeans, hrequest, fun op hop => by cases hcall.symm.trans hop⟩
    | some op =>
      have hspelled : r.Spelled := by
        obtain ⟨words, -, hread⟩ := hmeans
        exact Invocation.spelled_of_read hread hrequest
      rcases execute_confirms_or_reports hready.isOpen hspelled hcall with hconfirms | hreports
      · right
        have hall (op' : Operation) (hop : r.call? = some op') :
            s.Confirms r op' (s.execute r) := by
          cases hcall.symm.trans hop
          exact hconfirms
        exact ⟨inv, r, hmeans, hrequest, hall⟩
      · exact .inl hreports.spared

/-! ## §3 Dialogues -/

/-- The lines are taken one after the other, each asked for with the prompt. -/
inductive Converses : Session → List String → Session → Prop
  | nil {s : Session} : Converses s [] s
  | cons {s s' s'' : Session} {raw : String} {rest : List String}
      (htakes : (s.print Launch.prompt).Takes raw s') (hrest : Converses s' rest s'') :
    Converses s (raw :: rest) s''

/-- Having asked for a line, the dialogue ends: with the farewell, where there is none or it is one
for leaving; with the exit code 0, where it asks for help on a command line; and with a failure,
where its quotes or its last backslash leave it unfinished. -/
inductive Ends (s : Session) : List String → Outcome → Prop
  | input : Ends s [] s.farewell
  | leaving {raw : String} {rest : List String} (hleaves : Leaves raw) :
    Ends s (raw :: rest) s.farewell
  | help {raw : String} {rest : List String} {form : Form}
      (hmeans : Says raw (.error (.help form))) :
    Ends s (raw :: rest) ((s.print (ended form.helpLines)).outcome (.exit 0))
  | unfinished {raw : String} {rest : List String} {u : Text.Words.Unfinished}
      (hsplits : Splits raw (.error u)) :
    Ends s (raw :: rest) (s.outcome (.failed (unfinishedFailure u)))

theorem Converses.ready (hconverses : s.Converses done s') (hready : s.host.Ready) :
    s'.host.Ready := by
  induction hconverses with
  | nil => exact hready
  | cons htakes _ ih => exact ih (htakes.ready hready)

/-- **Every dialogue** takes lines as long as they can be taken, and ends. -/
theorem dialogue_ends (s : Session) (lines : List String) :
    ∃ done rest s', lines = done ++ rest ∧ s.Converses done s' ∧
      (s'.print Launch.prompt).Ends rest (s.dialogue lines) := by
  induction lines generalizing s with
  | nil => exact ⟨[], [], s, rfl, .nil, .input⟩
  | cons raw rest ih =>
    have hanswers := (s.print Launch.prompt).line_answers raw
    -- the dialogue looks at nothing but what follows the line
    unfold dialogue
    generalize (s.print Launch.prompt).line raw = next at hanswers
    cases hanswers with
    | leaving hleaves => exact ⟨[], raw :: rest, s, rfl, .nil, .leaving hleaves⟩
    | help hmeans => exact ⟨[], raw :: rest, s, rfl, .nil, .help hmeans⟩
    | unfinished hsplits => exact ⟨[], raw :: rest, s, rfl, .nil, .unfinished hsplits⟩
    | @taken s' htakes =>
      obtain ⟨done, left, s'', hlines, hconverses, hends⟩ := ih s'
      refine ⟨raw :: done, left, s'', ?_, .cons htakes hconverses, hends⟩
      rw [hlines, List.cons_append]

end Session

/-! ## §4 The program -/

/-- A new device is ready. -/
theorem ready_of_start {keys : Value} {files : Files} {h : Host}
    (hstart : Host.start keys files = .ok h) : h.Ready := by
  obtain ⟨ring, hdevice⟩ := Host.start_device hstart
  constructor
  · rw [hdevice]
  · intro b
    rw [hdevice]
    cases b <;> rfl

namespace Launch

variable {l : Launch} {settings : Settings}

/-- **What the program does without a command line.**  With valid settings it takes the lines of any
input one after the other on one device, and its dialogue ends in one of the ways that
`Session.Ends` lists, unless the level of logging is unknown and there is no dialogue.  Every line
that is taken leaves the device ready, and both buffers and all protection as they were unless it
asked for a demonstration or for a call that succeeded. -/
theorem run_converses (hwords : l.words = []) (hsettings : Settings.load [] l.env = .ok settings) :
    ((∃ why, Shown.ofLevel settings.logLevel = .error why ∧
        ∀ input, l.run input = ⟨ended [greeting], "", l.files, .failed why⟩) ∨
      ∃ shown host, Shown.ofLevel settings.logLevel = .ok shown ∧
        Host.start (textList settings.keys) l.files = .ok host ∧ host.Ready ∧
        ∀ input, ∃ done rest s', inputLines input = done ++ rest ∧
          ((Session.start host settings.backupPath shown l.sink).print (ended [greeting])).Converses
            done s' ∧
          s'.host.Ready ∧ (s'.print prompt).Ends rest (l.run input)) ∧
    ∀ (s s' : Session) (raw : String), s.host.Ready → s.Takes raw s' →
      s'.host.Ready ∧ (s.host.Spared s'.host ∨
        ∃ inv r, Says raw (.ok inv) ∧ inv.request = some r ∧
          ∀ op, r.call? = some op → s.Confirms r op s') := by
  have hread : Invocation.read l.words = .ok {} := by
    rw [hwords]
    rfl
  have hindirect : l.isDirect = false := by
    rw [isDirect, hwords]
  -- no keys are given, so the device gets those of the settings
  obtain ⟨ring, hring⟩ : ∃ ring, Keyring.ofValue
      (textList ((none : Option (List String)).getD settings.keys)) = .ok ring :=
    Settings.keyring_of_load hsettings
  refine ⟨?dialogue, fun s s' raw hready htakes => ⟨htakes.ready hready, htakes.spared hready⟩⟩
  rcases session_cases hsettings hring with
      ⟨shown, host, hshown, hstart, hsession⟩ | ⟨why, hunknown, hsession⟩
  · right
    have hready := ready_of_start hstart
    refine ⟨shown, host, hshown, hstart, hready, fun input => ?_⟩
    rw [run_of_dialogue hread hindirect hsession]
    obtain ⟨done, rest, s', hlines, hconverses, hends⟩ :=
      ((Session.start host settings.backupPath shown l.sink).print (ended [greeting])).dialogue_ends
        (inputLines input)
    exact ⟨done, rest, s', hlines, hconverses, hconverses.ready hready, hends⟩
  · left
    exact ⟨why, hunknown, run_of_no_dialogue hread hindirect hsession⟩

/-- With the standard settings there is a dialogue. -/
theorem run_converses_standard : ∃ shown host,
    Shown.ofLevel (Settings.logLevel {}) = .ok shown ∧
      Host.start (textList []) Files.empty = .ok host ∧ host.Ready ∧
      ∀ input, ∃ done rest s', inputLines input = done ++ rest ∧
        ((Session.start host (Settings.backupPath {}) shown Sink.ample).print
          (ended [greeting])).Converses done s' ∧
        s'.host.Ready ∧ (s'.print prompt).Ends rest ((ofWords []).run input) := by
  have hsettings : Settings.load [] [] = .ok {} := rfl
  rcases (run_converses (l := ofWords []) rfl hsettings).1 with ⟨why, hunknown, -⟩ | hdialogue
  · cases hunknown
  · exact hdialogue

/-- That no line ends the program with a failure is too much to say. -/
theorem not_every_dialogue_ends_well :
    ¬ ∀ (l : Launch) (settings : Settings) (shown : Shown) (input : String), l.words = [] →
      Settings.load [] l.env = .ok settings → Shown.ofLevel settings.logLevel = .ok shown →
        (l.run input).ending = .finished ∨ (l.run input).ending = .exit 0 := by
  intro hevery
  have hfails : ((ofWords []).run "\"\n").ending = .failed .openQuote := rfl
  rcases hevery (ofWords []) {} (.atLeast 20) "\"\n" rfl rfl rfl with hended | hended
  · cases hfails.symm.trans hended
  · cases hfails.symm.trans hended

end Launch

end SectorDisk.Console
