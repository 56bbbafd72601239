import RichTemplate.Command.Run
import RichTemplate.Proofs.Inspection

/-!
# Exit codes

The exit code of a command that ends tells what was wrong: first an input that cannot be read, then
a profile that is invalid, then, in strict mode, a problem of the template. How the command is to
behave otherwise changes neither what it prints nor the code; a level only hides records below it.
-/

namespace RichTemplate

def LogRecord.text (records : List LogRecord) : String :=
  String.join (records.map fun r => r.line ++ "\n")

theorem LogRecord.atLeast_atLeast {threshold threshold' : Level}
    (h : threshold.rank ≤ threshold'.rank) (records : List LogRecord) :
    atLeast threshold' (atLeast threshold records) = atLeast threshold' records := by
  rw [atLeast, atLeast, atLeast, List.filter_filter]
  refine List.filter_congr fun r _ => ?_
  simp only [Bool.and_eq_left_iff_imp, decide_eq_true_eq]
  exact fun hr => Nat.le_trans h hr

namespace Command

/-! ### What can be wrong -/

section Wrong

variable {files : Files} {name : String} {source : TemplateSource}

def ProfileMissing (files : Files) (name : String) : Prop :=
  files.atResolved (.ofText name) = .ok .missing

def ProfileInvalid (files : Files) (name : String) : Prop :=
  ∃ content issues, files.atResolved (.ofText name) = .ok content ∧
    (Profile.load content).result = .error (.invalid issues)

/-- The file of a template is missing, or there is something that cannot be read as text. -/
inductive TemplateUnreadable (files : Files) : TemplateSource → Prop
  | missing {name : String} (h : files.atPath (.ofText name) = .ok .missing) :
    TemplateUnreadable files (.file name)
  | directory {name : String} (h : files.atPath (.ofText name) = .ok .directory) :
    TemplateUnreadable files (.file name)
  | locked {name : String} (h : files.atPath (.ofText name) = .ok .locked) :
    TemplateUnreadable files (.file name)
  | unreachable {name : String} {e : PathError} (h : files.atPath (.ofText name) = .error e) :
    TemplateUnreadable files (.file name)
  | notUtf8 {name : String} {content : ByteArray}
    (h : files.atPath (.ofText name) = .ok (.bytes content)) (hinvalid : ¬ content.IsValidUTF8) :
    TemplateUnreadable files (.file name)

def Reports (files : Files) (name : String) (source : TemplateSource) : Prop :=
  ∃ content profile template, files.atResolved (.ofText name) = .ok content ∧
    (Profile.load content).result = .ok profile ∧ source.read files = .ok (some template) ∧
    (profile.interpolate template).diagnostics ≠ []

theorem decodeText?_eq_none_iff {content : ByteArray} :
    decodeText? content = none ↔ ¬ content.IsValidUTF8 := by
  rw [decodeText?, Option.map_eq_none_iff, String.fromUTF8?]
  split <;> simp_all

theorem read_of_found {content : FileContent} (h : files.atPath (.ofText name) = .ok content) :
    (TemplateSource.file name).read files
      = (TemplateSource.ofContent (.ofText name) content).map some := by
  rw [TemplateSource.read, h]
  cases hcontent : TemplateSource.ofContent (.ofText name) content <;>
    simp [Except.mapError, hcontent, bind, Except.bind, pure, Except.pure, Except.map]

theorem TemplateUnreadable.exists_read_error (h : TemplateUnreadable files source) :
    ∃ e, source.read files = .error e := by
  cases h with
  | missing hpath => exact ⟨_, read_of_found hpath⟩
  | directory hpath => exact ⟨_, read_of_found hpath⟩
  | locked hpath => exact ⟨_, read_of_found hpath⟩
  | unreachable hpath =>
    rw [TemplateSource.read, hpath]
    exact ⟨_, rfl⟩
  | notUtf8 hpath hinvalid =>
    rw [read_of_found hpath, TemplateSource.ofContent, decodeText?_eq_none_iff.mpr hinvalid]
    exact ⟨_, rfl⟩

theorem unreadable_of_read_error {e : TemplateError} (h : source.read files = .error e)
    (hpath : e ≠ .noPath) : TemplateUnreadable files source := by
  cases source with
  | text s => cases h
  | noText => cases h
  | noFile => exact absurd (Except.error.inj h).symm hpath
  | file name =>
    cases hfound : files.atPath (.ofText name) with
    | error e => exact .unreachable hfound
    | ok content =>
      cases content with
      | missing => exact .missing hfound
      | directory => exact .directory hfound
      | locked => exact .locked hfound
      | bytes content =>
        refine .notUtf8 hfound (decodeText?_eq_none_iff.mp ?_)
        by_contra hdecodes
        obtain ⟨cs, hcs⟩ := Option.ne_none_iff_exists'.mp hdecodes
        rw [read_of_found hfound, TemplateSource.ofContent, hcs] at h
        cases h

theorem not_unreadable_of_read {text : Option String} (h : source.read files = .ok text) :
    ¬ TemplateUnreadable files source := by
  intro hunreadable
  obtain ⟨e, herror⟩ := hunreadable.exists_read_error
  rw [h] at herror
  cases herror

end Wrong

/-! ### Courses -/

/-- What an exit code tells: whether an input is unreadable, otherwise whether the profile is
invalid, otherwise whether the template has problems that are not let pass. -/
structure CodeTells (unreadable invalid problematic : Prop) (outcome : Outcome) (code : Nat) :
    Prop where
  one_iff : code = 1 ↔ unreadable
  two_iff : code = 2 ↔ ¬ unreadable ∧ invalid
  three_iff : code = 3 ↔ ¬ unreadable ∧ ¬ invalid ∧ problematic
  zero_iff : code = 0 ↔ ¬ unreadable ∧ ¬ invalid ∧ ¬ problematic
  silent : code = 1 ∨ code = 2 → outcome.stdout = ""

namespace CodeTells

variable {unreadable invalid problematic : Prop} {outcome : Outcome}

theorem one (h : unreadable) (records : List LogRecord) :
    CodeTells unreadable invalid problematic (.exit 1 records) 1 := by
  constructor <;> simp [h, Outcome.exit, Outcome.stdout]

theorem two (hreadable : ¬ unreadable) (h : invalid) (records : List LogRecord) :
    CodeTells unreadable invalid problematic (.exit 2 records) 2 := by
  constructor <;> simp [hreadable, h, Outcome.exit, Outcome.stdout]

theorem ofProblems (hreadable : ¬ unreadable) (hvalid : ¬ invalid) [Decidable problematic] :
    CodeTells unreadable invalid problematic outcome (if problematic then 3 else 0) := by
  by_cases h : problematic <;> constructor <;> simp [hreadable, hvalid, h]

end CodeTells

section Rendering

variable {files : Files} {name : String} {source : TemplateSource} {profile : Profile}
  {template : String} {settings : Settings} {records : List LogRecord} {code : Nat}

theorem exists_printed_of_withProfile
    (h : (Render.withProfile profile template settings records).result = .ok code) :
    ∃ segments text, (profile.interpolate template).result = .ok segments ∧
      Render.printed settings.format segments = .ok text := by
  cases hrun : (profile.interpolate template).result with
  | error e =>
    rw [result_withProfile_of_not_filled hrun] at h
    cases h
  | ok segments =>
    cases hprinted : Render.printed settings.format segments with
    | error e =>
      rw [result_withProfile_of_not_printed hrun hprinted] at h
      cases h
    | ok text => exact ⟨segments, text, rfl, hprinted⟩

theorem withProfile_congr {settings' : Settings} (hformat : settings'.format = settings.format)
    (hstrict : settings'.strict = settings.strict) :
    Render.withProfile profile template settings' records
      = Render.withProfile profile template settings records := by
  unfold Render.withProfile
  rw [hformat, hstrict]

inductive Course (files : Files) (name : String) (source : TemplateSource) :
    (Settings → Outcome) → Prop
  | unreadable (records : List LogRecord)
    (h : ProfileMissing files name ∨ TemplateUnreadable files source) :
    Course files name source fun _ => .exit 1 records
  | invalid (records : List LogRecord)
    (hreadable : ¬ (ProfileMissing files name ∨ TemplateUnreadable files source))
    (h : ProfileInvalid files name) : Course files name source fun _ => .exit 2 records
  | failed (e : Failure) (records : List LogRecord) :
    Course files name source fun _ => .fail e records
  | filled (profile : Profile) (template : String) (records : List LogRecord)
    (hreadable : ¬ (ProfileMissing files name ∨ TemplateUnreadable files source))
    (hvalid : ¬ ProfileInvalid files name)
    (hreports : (profile.interpolate template).diagnostics ≠ [] ↔ Reports files name source) :
    Course files name source fun settings =>
      Render.withProfile profile template settings records

theorem reports_iff {content : FileContent}
    (hfound : files.atResolved (.ofText name) = .ok content)
    (hload : (Profile.load content).result = .ok profile)
    (hread : source.read files = .ok (some template)) :
    Reports files name source ↔ (profile.interpolate template).diagnostics ≠ [] := by
  constructor
  · rintro ⟨content', profile', template', hfound', hload', hread', hne⟩
    obtain rfl := Except.ok.inj (hfound.symm.trans hfound')
    obtain rfl := Except.ok.inj (hload.symm.trans hload')
    obtain rfl := Option.some.inj (Except.ok.inj (hread.symm.trans hread'))
    exact hne
  · intro hne
    exact ⟨content, profile, template, hfound, hload, hread, hne⟩

theorem not_profileInvalid {content : FileContent}
    (hfound : files.atResolved (.ofText name) = .ok content)
    (hload : (Profile.load content).result = .ok profile) : ¬ ProfileInvalid files name := by
  rintro ⟨content', issues, hfound', hload'⟩
  obtain rfl := Except.ok.inj (hfound.symm.trans hfound')
  rw [hload] at hload'
  cases hload'

/-- Once both inputs have been read, loading the profile decides on the course. -/
theorem course_of_read {content : FileContent} {text : Option String}
    (hfound : files.atResolved (.ofText name) = .ok content) (hcontent : content ≠ .missing)
    (hread : source.read files = .ok text) (records : List LogRecord) :
    Course files name source fun settings =>
      afterLoading text settings records (Profile.load content).result := by
  have hreadable : ¬ (ProfileMissing files name ∨ TemplateUnreadable files source) := by
    rintro (hmissing | hunreadable)
    · exact hcontent (Except.ok.inj (hfound.symm.trans hmissing))
    · exact not_unreadable_of_read hread hunreadable
  cases hload : (Profile.load content).result with
  | error e =>
    cases e with
    | invalid issues => exact .invalid _ hreadable ⟨content, issues, hfound, hload⟩
    | _ => exact .failed _ _
  | ok profile =>
    cases text with
    | none => exact .failed _ _
    | some template =>
      exact .filled profile template records hreadable (not_profileInvalid hfound hload)
        (reports_iff hfound hload hread).symm

theorem course_render (files : Files) (name : String) (source : TemplateSource) :
    Course files name source (render files name source) := by
  cases hfound : files.atResolved (.ofText name) with
  | error e =>
    have hrender : render files name source = fun _ => .fail (.path e) [] :=
      funext fun settings => by rw [render, hfound]
    rw [hrender]
    exact .failed _ _
  | ok content =>
    by_cases hcontent : content = .missing
    · rw [hcontent] at hfound
      have hrender : render files name source = _ := funext fun settings => by rw [render, hfound]
      rw [hrender]
      exact .unreadable _ (Or.inl hfound)
    · rw [funext (render_of_found hfound hcontent)]
      cases hread : source.read files with
      | ok text => exact course_of_read hfound hcontent hread _
      | error e =>
        -- a template file without a name is no failure of reading: it ends the run without a code
        cases e with
        | noPath => exact .failed _ _
        | _ =>
          have hunreadable : TemplateUnreadable files source :=
            unreadable_of_read_error hread TemplateError.noConfusion
          exact .unreadable _ (Or.inr hunreadable)

inductive Switches (strict strict' : Bool) : Nat → Nat → Prop
  | same (code : Nat) : Switches strict strict' code code
  | on (hoff : strict = false) (hon : strict' = true) : Switches strict strict' 0 3
  | off (hon : strict = true) (hoff : strict' = false) : Switches strict strict' 3 0

theorem switches_of_problems (strict strict' : Bool) (P : Prop) [Decidable P] :
    Switches strict strict' (if strict = true ∧ P then 3 else 0)
      (if strict' = true ∧ P then 3 else 0) := by
  by_cases hP : P
  · cases strict <;> cases strict' <;>
      simp only [hP, and_true, Bool.false_eq_true, if_true, if_false]
    exacts [.same 0, .on rfl rfl, .off rfl rfl, .same 3]
  · simp only [hP, and_false, if_false]
    exact .same 0

namespace Course

variable {course : Settings → Outcome} {settings' : Settings}

theorem codeTells (h : Course files name source course)
    (hcode : (course settings).result = .ok code) :
    CodeTells (ProfileMissing files name ∨ TemplateUnreadable files source)
      (ProfileInvalid files name) (settings.strict = true ∧ Reports files name source)
      (course settings) code := by
  cases h with
  | unreadable records hwrong =>
    obtain rfl := Except.ok.inj hcode
    exact .one hwrong records
  | invalid records hreadable hwrong =>
    obtain rfl := Except.ok.inj hcode
    exact .two hreadable hwrong records
  | failed => cases hcode
  | filled profile template records hreadable hvalid hreports =>
    obtain ⟨segments, text, hok, hprinted⟩ := exists_printed_of_withProfile hcode
    obtain ⟨hresult, -⟩ := withProfile_of_printed hok hprinted records
    obtain rfl := Except.ok.inj (hresult.symm.trans hcode)
    rw [← hreports]
    exact .ofProblems hreadable hvalid

theorem congr (h : Course files name source course) (hformat : settings'.format = settings.format)
    (hstrict : settings'.strict = settings.strict) : course settings' = course settings := by
  cases h with
  | filled profile template records => exact withProfile_congr hformat hstrict
  | _ => rfl

theorem exists_switched (h : Course files name source course)
    (hformat : settings'.format = settings.format)
    (hcode : (course settings).result = .ok code) :
    ∃ code', (course settings').result = .ok code' ∧
      (course settings').stdout = (course settings).stdout ∧
      Switches settings.strict settings'.strict code code' := by
  cases h with
  | filled profile template records =>
    obtain ⟨segments, text, hok, hprinted⟩ := exists_printed_of_withProfile hcode
    obtain ⟨hresult, hlines⟩ := withProfile_of_printed hok hprinted records
    -- what is printed depends on the format only, so the other run gets as far
    have hprinted' : Render.printed settings'.format segments = .ok text := hformat ▸ hprinted
    obtain ⟨hresult', hlines'⟩ := withProfile_of_printed hok hprinted' records
    obtain rfl := Except.ok.inj (hresult.symm.trans hcode)
    refine ⟨_, hresult', ?_, switches_of_problems _ _ _⟩
    rw [Outcome.stdout, Outcome.stdout, hlines, hlines']
  | _ => exact ⟨code, hcode, rfl, .same code⟩

end Course

end Rendering

/-! ### Inspecting -/

section Inspecting

variable {files : Files} {name : String} {source : TemplateSource} {settings : Settings}
  {text : Option String} {code : Nat}

/-- Settings name a profile to inspect against; an empty path names none. -/
def Names (settings : Settings) (name : String) : Prop :=
  settings.profile = some name ∧ name ≠ ""

theorem Names.exists_and_iff (h : Names settings name) {P : String → Prop} :
    (∃ name', Names settings name' ∧ P name') ↔ P name := by
  constructor
  · rintro ⟨name', h', hP⟩
    obtain rfl := Option.some.inj (h.1.symm.trans h'.1)
    exact hP
  · exact fun hP => ⟨name, h, hP⟩

theorem inspect_of_names (hread : source.read files = .ok text) (h : Names settings name) :
    inspect files source settings = Inspect.withProfile files name text := by
  obtain ⟨hprofile, hne⟩ := h
  rw [inspect, hread, hprofile]
  dsimp only
  split
  next hnone => cases hnone
  next hempty => exact absurd (Option.some.inj hempty) hne
  next hname => rw [Option.some.inj hname]

theorem inspect_of_not_names (hread : source.read files = .ok text)
    (h : ¬ ∃ name, Names settings name) :
    inspect files source settings = Inspect.list none text [] := by
  rw [inspect, hread]
  cases hprofile : settings.profile with
  | none => rfl
  | some name =>
    obtain rfl : name = "" := by
      by_contra hne
      exact h ⟨name, hprofile, hne⟩
    rfl

theorem code_of_list {profile : Option Profile} {records : List LogRecord}
    (h : (Inspect.list profile text records).result = .ok code) : code = 0 := by
  unfold Inspect.list at h
  split at h
  next => cases h
  next => exact (Except.ok.inj h).symm
  next => exact (Except.ok.inj h).symm

theorem list_codeTells {profile : Option Profile} {records : List LogRecord}
    {unreadable invalid : Prop} (hreadable : ¬ unreadable) (hvalid : ¬ invalid)
    (h : (Inspect.list profile text records).result = .ok code) :
    CodeTells unreadable invalid False (Inspect.list profile text records) code := by
  obtain rfl := code_of_list h
  exact .ofProblems hreadable hvalid

theorem withProfile_codeTells
    (hcode : (Inspect.withProfile files name text).result = .ok code) :
    CodeTells (ProfileMissing files name) (ProfileInvalid files name) False
      (Inspect.withProfile files name text) code := by
  cases hfound : files.atResolved (.ofText name) with
  | error e =>
    rw [Inspect.withProfile, hfound] at hcode
    cases hcode
  | ok content =>
    by_cases hcontent : content = .missing
    · rw [hcontent] at hfound
      rw [Inspect.withProfile, hfound] at hcode ⊢
      obtain rfl := Except.ok.inj hcode
      exact .one hfound _
    · have hexists : ¬ ProfileMissing files name := fun hmissing =>
        hcontent (Except.ok.inj (hfound.symm.trans hmissing))
      rw [inspect_withProfile_eq hfound hcontent] at hcode ⊢
      cases hload : (Profile.load content).result with
      | ok profile =>
        rw [hload] at hcode
        exact list_codeTells hexists (not_profileInvalid hfound hload) hcode
      | error e =>
        rw [hload] at hcode
        cases e with
        | invalid issues =>
          obtain rfl := Except.ok.inj hcode
          exact .two hexists ⟨content, issues, hfound, hload⟩ _
        | _ => cases hcode

theorem inspect_codeTells (hcode : (inspect files source settings).result = .ok code) :
    CodeTells
      (TemplateUnreadable files source ∨ ∃ name, Names settings name ∧ ProfileMissing files name)
      (∃ name, Names settings name ∧ ProfileInvalid files name) False
      (inspect files source settings) code := by
  cases hread : source.read files with
  | error e =>
    cases e with
    | noPath =>
      rw [inspect, hread] at hcode
      cases hcode
    | _ =>
      have hunreadable : TemplateUnreadable files source :=
        unreadable_of_read_error hread TemplateError.noConfusion
      rw [inspect, hread] at hcode ⊢
      obtain rfl := Except.ok.inj hcode
      exact .one (Or.inl hunreadable) _
  | ok text =>
    have hreadable := not_unreadable_of_read hread
    by_cases hnames : ∃ name, Names settings name
    · obtain ⟨name, hname⟩ := hnames
      rw [inspect_of_names hread hname] at hcode ⊢
      rw [hname.exists_and_iff, hname.exists_and_iff, or_iff_right hreadable]
      exact withProfile_codeTells hcode
    · rw [inspect_of_not_names hread hnames] at hcode ⊢
      refine list_codeTells ?_ ?_ hcode
      · rintro (hunreadable | ⟨name, hname, -⟩)
        · exact hreadable hunreadable
        · exact hnames ⟨name, hname⟩
      · rintro ⟨name, hname, -⟩
        exact hnames ⟨name, hname⟩

theorem inspect_congr {settings' : Settings} (hprofile : settings'.profile = settings.profile) :
    inspect files source settings' = inspect files source settings := by
  rw [inspect, inspect, hprofile]

end Inspecting

/-! ### Runs of commands -/

/-- A run of a command that ends with a code, with its outcome and the level it shows records
from. -/
structure Returned (files : Files) (args : List String) (outcome : Outcome) (threshold : Level)
    (code : Nat) : Prop where
  ran : run files args = .ran outcome threshold
  result_eq : outcome.result = .ok code

section Running

variable {files : Files} {args : List String} {name : String} {source : TemplateSource}
  {settings : Settings} {outcome outcome' : Outcome} {threshold : Level} {code : Nat}

theorem eq_of_response (h : Response.of settings outcome' = .ran outcome threshold)
    (hresult : outcome.result = .ok code) :
    outcome = outcome' ∧ threshold = settings.threshold := by
  unfold Response.of at h
  split at h
  · injection h with houtcome
    rw [← houtcome] at hresult
    cases hresult
  · injection h with houtcome hthreshold
    exact ⟨houtcome.symm, hthreshold.symm⟩

theorem response_of_named (h : settings.level.isSome = true) (outcome : Outcome) :
    Response.of settings outcome = .ran outcome settings.threshold := by
  have hnone : settings.level.isNone = false := by rwa [Option.isNone_eq_false_iff]
  rw [Response.of, hnone]
  rfl

theorem run_of_args {invocation : Invocation} (h : Invocation.ofArguments args = .ok invocation) :
    run files args = invoke files invocation := by
  rw [run, h]

theorem Returned.eq_render (h : Returned files args outcome threshold code)
    (hargs : Invocation.ofArguments args = .ok (.render name source settings)) :
    outcome = render files name source settings ∧ threshold = settings.threshold := by
  refine eq_of_response ?_ h.result_eq
  rw [← h.ran, run_of_args hargs]
  rfl

theorem Returned.eq_inspect (h : Returned files args outcome threshold code)
    (hargs : Invocation.ofArguments args = .ok (.inspect source settings)) :
    outcome = inspect files source settings ∧ threshold = settings.threshold := by
  refine eq_of_response ?_ h.result_eq
  rw [← h.ran, run_of_args hargs]
  rfl

theorem returned_render (hargs : Invocation.ofArguments args = .ok (.render name source settings))
    (hlevel : settings.level.isSome = true)
    (hresult : (render files name source settings).result = .ok code) :
    Returned files args (render files name source settings) settings.threshold code where
  ran := by rw [run_of_args hargs, invoke, response_of_named hlevel]
  result_eq := hresult

theorem returned_inspect (hargs : Invocation.ofArguments args = .ok (.inspect source settings))
    (hlevel : settings.level.isSome = true)
    (hresult : (inspect files source settings).result = .ok code) :
    Returned files args (inspect files source settings) settings.threshold code where
  ran := by rw [run_of_args hargs, invoke, response_of_named hlevel]
  result_eq := hresult

end Running

/-- **Exit codes tell what was wrong, and switches do not change it.** Where a command ends with a
code, the code tells of unreadable inputs, then of an invalid profile, then, in strict mode, of
problems that filling the template reports; nothing is printed for the first two. Arguments that
differ in the strict mode or in what is logged end too and print the same, and of the codes only
that of problems is switched. From a higher level on, what is shown is what was shown without the
records below. -/
theorem exit_codes_tell_whatever_is_switched {files : Files} {args : List String}
    {outcome : Outcome} {threshold : Level} {code : Nat}
    (h : Returned files args outcome threshold code) :
    (∀ name source settings,
      Invocation.ofArguments args = .ok (.render name source settings) →
      CodeTells (ProfileMissing files name ∨ TemplateUnreadable files source)
        (ProfileInvalid files name) (settings.strict = true ∧ Reports files name source)
        outcome code ∧
      ∀ args' settings', Invocation.ofArguments args' = .ok (.render name source settings') →
        settings'.format = settings.format → settings'.level.isSome = true →
        ∃ outcome' threshold' code', Returned files args' outcome' threshold' code' ∧
          outcome'.stdout = outcome.stdout ∧
          Switches settings.strict settings'.strict code code' ∧
          (settings'.strict = settings.strict → threshold.rank ≤ threshold'.rank →
            outcome'.stderr threshold' = LogRecord.text
              (LogRecord.atLeast threshold' (LogRecord.atLeast threshold outcome.records)))) ∧
    ∀ source settings, Invocation.ofArguments args = .ok (.inspect source settings) →
      CodeTells
        (TemplateUnreadable files source ∨ ∃ name, Names settings name ∧ ProfileMissing files name)
        (∃ name, Names settings name ∧ ProfileInvalid files name) False outcome code ∧
      ∀ args' settings', Invocation.ofArguments args' = .ok (.inspect source settings') →
        settings'.profile = settings.profile → settings'.level.isSome = true →
        Returned files args' outcome settings'.threshold code := by
  refine ⟨fun name source settings hargs => ?_, fun source settings hargs => ?_⟩
  · obtain ⟨rfl, rfl⟩ := h.eq_render hargs
    have hcourse := course_render files name source
    refine ⟨hcourse.codeTells h.result_eq, fun args' settings' hargs' hformat hlevel => ?_⟩
    obtain ⟨code', hcode', hstdout, hswitches⟩ := hcourse.exists_switched hformat h.result_eq
    refine ⟨_, _, code', returned_render hargs' hlevel hcode', hstdout, hswitches, ?_⟩
    intro hstrict hrank
    rw [LogRecord.atLeast_atLeast hrank, hcourse.congr hformat hstrict]
    rfl
  · obtain ⟨rfl, rfl⟩ := h.eq_inspect hargs
    refine ⟨inspect_codeTells h.result_eq, fun args' settings' hargs' hprofile hlevel => ?_⟩
    have hinspect : inspect files source settings' = inspect files source settings :=
      inspect_congr hprofile
    rw [← hinspect]
    exact returned_inspect hargs' hlevel (hinspect ▸ h.result_eq)

namespace Sample

def lenientArgs : List String :=
  ["render", "p", "--template", "<br>x</br>{{br}} {{u}}"]

def lenient : Settings :=
  { Settings.initial with template := some source }

def strictArgs : List String :=
  lenientArgs ++ ["--strict", "--quiet"]

theorem ofArguments_lenientArgs :
    Invocation.ofArguments lenientArgs = .ok (.render "p" source lenient) := by
  decide +kernel

theorem ofArguments_strictArgs : Invocation.ofArguments strictArgs
    = .ok (.render "p" source { lenient with strict := true, quiet := true }) := by
  decide +kernel

theorem returned_lenientArgs :
    Returned files lenientArgs (render files "p" source lenient) .warning 0 := by
  obtain ⟨profile, hgiven⟩ := exists_given
  refine returned_render ofArguments_lenientArgs rfl ?_
  rw [render_of_loaded hgiven.found hgiven.loaded hgiven.template_read,
    result_withProfile (Profile.denoted_of_load hgiven.loaded) _ rfl]
  rfl

end Sample

theorem exit_codes_tell_whatever_is_switched_of_sample :
    ∃ outcome, Returned Sample.files Sample.lenientArgs outcome .warning 0 ∧
      Invocation.ofArguments Sample.lenientArgs = .ok (.render "p" Sample.source Sample.lenient) ∧
      ¬ (ProfileMissing Sample.files "p" ∨ TemplateUnreadable Sample.files Sample.source) ∧
      ∃ outcome' threshold' code', Returned Sample.files Sample.strictArgs outcome' threshold' code' ∧
        outcome'.stdout = outcome.stdout ∧ Switches false true 0 code' := by
  have hreturned := Sample.returned_lenientArgs
  obtain ⟨htells, hswitched⟩ := (exit_codes_tell_whatever_is_switched hreturned).1 "p" Sample.source
    Sample.lenient Sample.ofArguments_lenientArgs
  obtain ⟨outcome', threshold', code', hreturned', hstdout, hswitches, -⟩ :=
    hswitched Sample.strictArgs _ Sample.ofArguments_strictArgs rfl rfl
  exact ⟨_, hreturned, Sample.ofArguments_lenientArgs, (htells.zero_iff.mp rfl).1, outcome',
    threshold', code', hreturned', hstdout, hswitches⟩

end Command

end RichTemplate
