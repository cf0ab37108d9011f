import SectorDisk.Proofs.Console.Invocation
import SectorDisk.Proofs.Settings

/-!
# Launches

The command line is read twice: in full, for the keys and the request, and once more for its first
word alone, which decides between carrying out a request and a dialogue.  The two readings agree as
long as no keys are given.  With keys the request is read, judged, and dropped.
-/

namespace SectorDisk.Console

/-! ## §1 Dialogues -/

namespace Session

@[simp] theorem outcome_out (s : Session) (ending : Ending) : (s.outcome ending).out = s.out := rfl

@[simp] theorem print_out (s : Session) (text : String) : (s.print text).out = s.out ++ text := rfl

theorem line_help (s : Session) : s.line "help" = .again (s.print (ended programForm.helpLines)) :=
  rfl

/-- A dialogue depends on its input: who asks for help is answered. -/
theorem dialogue_ne (s : Session) :
    s.dialogue (inputLines "") ≠ s.dialogue (inputLines "help\n") := by
  intro hsame
  have hempty : inputLines "" = [] := rfl
  have hhelp : inputLines "help\n" = ["help"] := rfl
  -- the answer and another prompt make the second output the longer one
  have hlength := congrArg (fun o => o.out.length) hsame
  simp only [hempty, hhelp, dialogue, line_help, farewell, outcome_out, print_out,
    String.length_append] at hlength
  have hprompt : 0 < Launch.prompt.length := by decide
  omega

end Session

/-! ## §2 Launches -/

namespace Launch

variable {l : Launch} {inv : Invocation} {r : Request} {settings : Settings}

/-- Whatever the input, the program carries out the request once, on a new device with the given
keys, and closes the device. -/
def Runs (l : Launch) (settings : Settings) (keys : List String) (r : Request) : Prop :=
  ∃ host shown, Host.start (textList keys) l.files = .ok host ∧
    ∀ input, l.run input =
      ((Session.start host settings.backupPath shown l.sink).execute r).outcome .finished

/-- With valid settings and keys there is a session, unless the level of logging is unknown. -/
theorem session_cases {keys : Option (List String)} {ring : Keyring}
    (hsettings : Settings.load [] l.env = .ok settings)
    (hring : Keyring.ofValue (textList (keys.getD settings.keys)) = .ok ring) :
    (∃ shown host, Shown.ofLevel settings.logLevel = .ok shown ∧
        Host.start (textList (keys.getD settings.keys)) l.files = .ok host ∧
        l.session keys = .ok (Session.start host settings.backupPath shown l.sink)) ∨
      ∃ why, Shown.ofLevel settings.logLevel = .error why ∧
        l.session keys = .error (.failed why) := by
  cases hshown : Shown.ofLevel settings.logLevel with
  | error why =>
    refine .inr ⟨why, rfl, ?_⟩
    simp only [session, hsettings, hshown, bind, Except.bind]
  | ok shown =>
    obtain ⟨host, hhost⟩ := Host.start_ok hring l.files
    refine .inl ⟨shown, host, rfl, hhost, ?_⟩
    simp only [session, hsettings, hshown, hhost, bind, Except.bind]

theorem run_of_direct {s : Session} (hread : Invocation.read l.words = .ok inv)
    (hrequest : inv.request = some r) (hdirect : l.isDirect = true)
    (hsession : l.session inv.keys = .ok s) (input : String) :
    l.run input = (s.execute r).outcome .finished := by
  simp only [run, course, hread, hdirect, hrequest, hsession, if_true]

theorem run_of_dialogue {s : Session} (hread : Invocation.read l.words = .ok inv)
    (hindirect : l.isDirect = false) (hsession : l.session inv.keys = .ok s) (input : String) :
    l.run input = (s.print (ended [greeting])).dialogue (inputLines input) := by
  simp only [run, course, hread, hindirect, hsession, Bool.false_eq_true, if_false]

theorem run_of_no_dialogue {ending : Ending} (hread : Invocation.read l.words = .ok inv)
    (hindirect : l.isDirect = false) (hsession : l.session inv.keys = .error ending)
    (input : String) : l.run input = ⟨ended [greeting], "", l.files, ending⟩ := by
  simp only [run, course, hread, hindirect, hsession, Bool.false_eq_true, if_false, early]

/-- What depends on its input carries out no one request. -/
theorem not_runs_of_dialogue {s : Session} {keys : List String}
    (hread : Invocation.read l.words = .ok inv) (hindirect : l.isDirect = false)
    (hsession : l.session inv.keys = .ok s) : ¬ l.Runs settings keys r := by
  rintro ⟨host, shown, -, hruns⟩
  -- one request does the same whatever the input is
  have hsame : l.run "" = l.run "help\n" := (hruns "").trans (hruns "help\n").symm
  rw [run_of_dialogue hread hindirect hsession, run_of_dialogue hread hindirect hsession] at hsame
  exact (s.print _).dialogue_ne hsame

/-- Without a session no request is carried out. -/
theorem not_runs_of_failed {why : Failure} {keys : List String}
    (hread : Invocation.read l.words = .ok inv) (hrequest : inv.request = some r)
    (hsession : l.session inv.keys = .error (.failed why)) : ¬ l.Runs settings keys r := by
  rintro ⟨host, shown, -, hruns⟩
  have hending : (l.run "").ending = .failed why := by
    cases hdirect : l.isDirect with
    | true => simp only [run, course, hread, hdirect, hrequest, hsession, if_true, early]
    | false => rw [run_of_no_dialogue hread hdirect hsession]
  rw [hruns] at hending
  cases hending

/-- A dialogue goes on from the keys alone. -/
theorem run_of_request_dropped {words : List String} (hread : Invocation.read l.words = .ok inv)
    (hwords : Invocation.read words = .ok { inv with request := none })
    (hindirect : l.isDirect = false) (input : String) :
    l.run input = { l with words := words }.run input := by
  have hindirect' : { l with words := words }.isDirect = false := by
    refine Bool.eq_false_iff.mpr fun hdirect => ?_
    obtain ⟨-, r, hnone⟩ := read_of_direct (l := { l with words := words }) hwords hdirect
    cases hnone
  -- a session has to do with the environment and the files, which are the same
  have hsession : { l with words := words }.session inv.keys = l.session inv.keys := rfl
  cases hkeys : l.session inv.keys with
  | ok s =>
    have hrun := run_of_dialogue (l := { l with words := words }) hwords hindirect'
      (hsession.trans hkeys) input
    rw [run_of_dialogue hread hindirect hkeys, hrun]
  | error ending =>
    have hrun := run_of_no_dialogue (l := { l with words := words }) hwords hindirect'
      (hsession.trans hkeys) input
    rw [run_of_no_dialogue hread hindirect hkeys, hrun]

/-- **When a command line with a command carries it out**: where it gives no keys, and the level of
logging is known.  With keys the program begins a dialogue, and the command makes no difference: any
command line that gives the same keys and no command does the same. -/
theorem runs_iff (hread : Invocation.read l.words = .ok inv) (hrequest : inv.request = some r)
    (hsettings : Settings.load [] l.env = .ok settings)
    (hkeys : ∀ keys, inv.keys = some keys → ∃ ring, Keyring.ofValue (textList keys) = .ok ring) :
    (l.Runs settings (inv.keys.getD settings.keys) r ↔
        inv.keys = none ∧ ∃ shown, Shown.ofLevel settings.logLevel = .ok shown) ∧
      (inv.keys ≠ none →
        ∀ words, Invocation.read words = .ok { inv with request := none } →
          ∀ input, l.run input = { l with words := words }.run input) := by
  have hring : ∃ ring, Keyring.ofValue (textList (inv.keys.getD settings.keys)) = .ok ring := by
    cases hgiven : inv.keys with
    | none => exact Settings.keyring_of_load hsettings
    | some keys => exact hkeys keys hgiven
  obtain ⟨ring, hring⟩ := hring
  have hdirect_iff := isDirect_iff hread hrequest
  constructor
  · rcases session_cases hsettings hring with
        ⟨shown, host, hshown, hhost, hsession⟩ | ⟨why, hunknown, hsession⟩
    · constructor
      · intro hruns
        refine ⟨hdirect_iff.mp ?_, shown, hshown⟩
        cases hdirect : l.isDirect with
        | true => rfl
        | false => exact absurd hruns (not_runs_of_dialogue hread hdirect hsession)
      · rintro ⟨hnone, -⟩
        exact ⟨host, shown, hhost, run_of_direct hread hrequest (hdirect_iff.mpr hnone) hsession⟩
    · -- the program fails before there is a device
      constructor
      · exact fun hruns => absurd hruns (not_runs_of_failed hread hrequest hsession)
      · rintro ⟨-, shown, hshown⟩
        cases hunknown.symm.trans hshown
  · intro hgiven words hwords input
    have hindirect : l.isDirect = false :=
      Bool.eq_false_iff.mpr fun hdirect => hgiven (hdirect_iff.mp hdirect)
    exact run_of_request_dropped hread hwords hindirect input

/-- The program with the given words, nothing in its environment and no files. -/
def ofWords (words : List String) : Launch where
  words := words
  env := []
  files := Files.empty

theorem lockInfo_runs :
    (ofWords ["lock-info"]).Runs {} [] .lockInfo ∧
      ∀ input, (ofWords ["--keys", "X", "lock-info"]).run input =
        (ofWords ["--keys", "X"]).run input := by
  have hread : Invocation.read ["lock-info"] = .ok ⟨none, some .lockInfo⟩ := rfl
  have hreadKeys : Invocation.read ["--keys", "X", "lock-info"] =
      .ok ⟨some ["X"], some .lockInfo⟩ := rfl
  have hsettings : Settings.load [] [] = .ok {} := rfl
  constructor
  · exact (runs_iff (l := ofWords ["lock-info"]) hread rfl hsettings nofun).1.mpr
      ⟨rfl, .atLeast 20, rfl⟩
  · refine (runs_iff (l := ofWords ["--keys", "X", "lock-info"]) hreadKeys rfl hsettings ?_).2
      nofun ["--keys", "X"] rfl
    rintro keys ⟨⟩
    exact ⟨_, rfl⟩

/-- That every command line with a command carries it out is too much to say. -/
theorem not_every_command_runs :
    ¬ ∀ (l : Launch) (inv : Invocation) (r : Request) (settings : Settings),
      Invocation.read l.words = .ok inv → inv.request = some r →
        Settings.load [] l.env = .ok settings →
          (∀ keys, inv.keys = some keys → ∃ ring, Keyring.ofValue (textList keys) = .ok ring) →
            l.Runs settings (inv.keys.getD settings.keys) r := by
  intro hevery
  have hread : Invocation.read ["--keys", "X", "lock-info"] =
      .ok ⟨some ["X"], some .lockInfo⟩ := rfl
  have hkeys : ∀ keys, some ["X"] = some keys →
      ∃ ring, Keyring.ofValue (textList keys) = .ok ring := by
    rintro keys ⟨⟩
    exact ⟨_, rfl⟩
  have hruns := hevery (ofWords ["--keys", "X", "lock-info"]) _ _ {} hread rfl rfl hkeys
  exact not_runs_of_dialogue hread rfl rfl hruns

end Launch

end SectorDisk.Console
