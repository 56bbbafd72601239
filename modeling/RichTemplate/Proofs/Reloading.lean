import RichTemplate.Proofs.Acceptance
import RichTemplate.Profile.Source

/-!
# Loading again

A loader notes what it finds wrong in a list, and the error that it raises shares that list. Every
loading begins with a new list and writes to no other, so a loading comes to the same after any
history of loadings, and what was raised can be read at any later time as it was raised.
-/

namespace RichTemplate

/-- What cannot be read has not come as far as the limits of profiles. -/
theorem Profile.readDocument_ne_limit (content : FileContent) (limit : Limit)
    (found : List Issue) : Profile.readDocument content ≠ .error (.limit limit found) := by
  cases content with
  | missing => exact fun h => nomatch h
  | directory => exact fun h => nomatch h
  | locked => exact fun h => nomatch h
  | bytes content =>
    rw [Profile.readDocument]
    cases (Yaml.Source.ofBytes content).bind Yaml.read with
    | ok document => exact fun h => nomatch h
    | error e => cases e <;> exact fun h => nomatch h

namespace Loader

variable {l l' l'' : Loader} {list : Nat}

/-! ### The lists of a loader -/

theorem issues_forget : l.forget.issues = [] := by
  rw [issues, held, forget, List.getElem?_append_right (Nat.le_refl _), Nat.sub_self]
  rfl

theorem held_forget (h : list < l.lists.length) : l.forget.held list = l.held list := by
  rw [held, held, forget, List.getElem?_append_left h]

theorem issues_note (i : Issue) : (l.note i).issues = l.issues ++ [i] := by
  have hcurrent := List.getElem?_eq_getElem l.current_lt
  rw [issues, held, issues, held, note, List.getElem?_modify_eq, hcurrent]
  rfl

theorem held_note_of_ne (i : Issue) (h : list ≠ l.current) :
    (l.note i).held list = l.held list := by
  have hother := List.getElem?_modify_ne (f := (· ++ [i])) (l := l.lists) (Ne.symm h)
  exact congrArg (Option.getD · []) hother

theorem length_lists_noteAll (is : List Issue) :
    (l.noteAll is).lists.length = l.lists.length := by
  induction is generalizing l with
  | nil => rfl
  | cons i is ih => exact ih.trans (List.length_modify _ _ _)

theorem issues_noteAll (is : List Issue) : (l.noteAll is).issues = l.issues ++ is := by
  induction is generalizing l with
  | nil => exact (List.append_nil _).symm
  | cons i is ih =>
    calc
      ((l.note i).noteAll is).issues = (l.note i).issues ++ is := ih
      _ = l.issues ++ [i] ++ is := by rw [issues_note]
      _ = l.issues ++ i :: is := List.append_assoc _ _ _

theorem held_noteAll_of_ne (is : List Issue) (h : list ≠ l.current) :
    (l.noteAll is).held list = l.held list := by
  induction is generalizing l with
  | nil => rfl
  | cons i is ih =>
    have hrest : ((l.note i).noteAll is).held list = (l.note i).held list := ih h
    exact hrest.trans (held_note_of_ne i h)

theorem issues_forget_noteAll (is : List Issue) : (l.forget.noteAll is).issues = is := by
  rw [issues_noteAll, issues_forget, List.nil_append]

structure Keeps (l l' : Loader) : Prop where
  length_le : l.lists.length ≤ l'.lists.length
  held_eq : ∀ list, list < l.lists.length → l'.held list = l.held list

namespace Keeps

theorem refl (l : Loader) : Keeps l l :=
  ⟨Nat.le_refl _, fun _ _ => rfl⟩

theorem trans (h : Keeps l l') (h' : Keeps l' l'') : Keeps l l'' where
  length_le := Nat.le_trans h.length_le h'.length_le
  held_eq list hlist := by
    rw [h'.held_eq list (Nat.lt_of_lt_of_le hlist h.length_le), h.held_eq list hlist]

theorem forget (l : Loader) : Keeps l l.forget where
  length_le := by
    rw [Loader.forget, List.length_append]
    exact Nat.le_add_right _ _
  held_eq _ hlist := held_forget hlist

/-- Notes go to the new list, behind all that there were. -/
theorem forget_noteAll (l : Loader) (is : List Issue) : Keeps l (l.forget.noteAll is) where
  length_le := by
    rw [length_lists_noteAll]
    exact (forget l).length_le
  held_eq list hlist := by
    have hne : list ≠ l.forget.current := Nat.ne_of_lt hlist
    rw [held_noteAll_of_ne is hne, held_forget hlist]

end Keeps

/-! ### What one loading does -/

def outcome : Source → Profile.Loading
  | .data document => Profile.loadData document
  | .file content => Profile.load content

/-- A loading gives what it would give by itself, for a loader that keeps what it had and holds the
issues found. An error that a list is raised for shares the loader's own. -/
structure Ends (l : Loader) (ended : Loading × Loader) (alone : Profile.Loading) : Prop where
  keeps : Keeps l ended.2
  raised : ∀ list, ended.1.result = .error (.invalid list) → list = ended.2.current
  read : ended.1.mapResultError ended.2.error = alone
  issues : ended.2.issues =
    match alone.result with
    | .error e => e.issues
    | .ok _ => []

theorem ends_of_invalid (h : Keeps l l') (records : List LogRecord) :
    Ends l (⟨.error (.invalid l'.current), records⟩, l')
      ⟨.error (.invalid l'.issues), records⟩ where
  keeps := h
  raised list hlist := by
    cases hlist
    rfl
  read := rfl
  issues := rfl

theorem ends_of_other (h : Keeps l l') {e : ProfileError} (hissues : l'.issues = e.issues)
    (records : List LogRecord) : Ends l (⟨.error (.other e), records⟩, l') ⟨.error e, records⟩ where
  keeps := h
  raised list hlist := by cases hlist
  read := rfl
  issues := hissues

theorem ends_of_ok (h : Keeps l l') (hissues : l'.issues = []) (profile : Profile)
    (records : List LogRecord) : Ends l (⟨.ok profile, records⟩, l') ⟨.ok profile, records⟩ where
  keeps := h
  raised list hlist := by cases hlist
  read := rfl
  issues := hissues

theorem ends_loadData (l : Loader) (document : Value) :
    Ends l (l.loadData document) (Profile.loadData document) := by
  unfold loadData Profile.loadData
  cases Limit.ofDocument? document with
  | some breach =>
    exact ends_of_other (.forget_noteAll l breach.issues) (issues_forget_noteAll breach.issues) _
  | none =>
    have hkeeps := Keeps.forget_noteAll l (Profile.issues document)
    have hissues := issues_forget_noteAll (l := l) (Profile.issues document)
    unfold Profile.ofValue
    dsimp only
    generalize l.forget.noteAll (Profile.issues document) = l' at hkeeps hissues
    rw [← hissues]
    have hinvalid := ends_of_invalid hkeeps (Profile.registration document).trace
    -- both decide by the list that holds what was noted
    cases hfound : l'.issues with
    | nil =>
      rw [hfound] at hinvalid
      cases (Profile.registration document).result with
      | ok registry => exact ends_of_ok hkeeps hfound _ _
      | error e => exact hinvalid
    | cons i is =>
      rw [hfound] at hinvalid
      exact hinvalid

theorem ends_loadFile (l : Loader) (content : FileContent) :
    Ends l (l.loadFile content) (Profile.load content) := by
  unfold loadFile Profile.load
  cases hread : Profile.readDocument content with
  | ok document =>
    have hends := ends_loadData l.forget document
    exact { hends with keeps := (Keeps.forget l).trans hends.keeps }
  | error e =>
    cases e with
    | invalid found =>
      have hraised := ends_of_invalid (Keeps.forget_noteAll l found) []
      rw [issues_forget_noteAll] at hraised
      exact hraised
    | notUtf8 => exact ends_of_other (.forget l) issues_forget []
    | badScalar e => exact ends_of_other (.forget l) issues_forget []
    | limit limit found => exact absurd hread (Profile.readDocument_ne_limit content limit found)

theorem ends_attempt (l : Loader) (source : Source) :
    Ends l (l.attempt source) (outcome source) := by
  cases source with
  | data document => exact ends_loadData l document
  | file content => exact ends_loadFile l content

/-! ### What loadings do one after the other -/

def loadAll (l : Loader) (sources : List Source) : Loader :=
  sources.foldl (fun l source => (l.attempt source).2) l

theorem keeps_loadAll (l : Loader) (sources : List Source) : Keeps l (l.loadAll sources) := by
  induction sources generalizing l with
  | nil => exact .refl l
  | cons source sources ih => exact (ends_attempt l source).keeps.trans (ih _)

theorem Ends.error_later {ended : Loading × Loader} {alone : Profile.Loading}
    (h : Ends l ended alone) (hkeeps : Keeps ended.2 l') {raised : Raised}
    (hraised : ended.1.result = .error raised) : l'.error raised = ended.2.error raised := by
  cases raised with
  | other e => rfl
  | invalid list =>
    have hcurrent := h.raised list hraised
    exact congrArg ProfileError.invalid
      (hkeeps.held_eq list (hcurrent ▸ ended.2.current_lt))

/-- What was raised is read later as at once. -/
theorem Ends.read_later {ended : Loading × Loader} {alone : Profile.Loading}
    (h : Ends l ended alone) (later : List Source) :
    ended.1.mapResultError (ended.2.loadAll later).error = alone := by
  rw [← h.read, Traced.mapResultError, Traced.mapResultError]
  cases hresult : ended.1.result with
  | ok profile => rfl
  | error raised =>
    have herror := h.error_later (keeps_loadAll ended.2 later) hresult
    rw [Except.mapError, Except.mapError, herror]

end Loader

/-- **A loader that is used again leaks nothing from one loading to the next.** Whatever it has
loaded before, a source comes to what it would come to by itself, as with a new loader. What was
raised for it says the same at any later time, whatever is loaded till then. After the loading the
loader holds what it has raised, or what it had found where reading came up against a limit, or
nothing. -/
theorem loading_leaks_nothing (history : List Loader.Source) (source : Loader.Source) :
    let ended := (Loader.new.loadAll history).attempt source
    (Loader.new.load source).1 = Loader.outcome source ∧
    (∀ later, ended.1.mapResultError (ended.2.loadAll later).error = Loader.outcome source) ∧
    ended.2.issues =
      match (Loader.outcome source).result with
      | .ok _ => []
      | .error (.invalid found) => found
      | .error (.limit _ found) => found
      | .error .notUtf8 => []
      | .error (.badScalar _) => [] := by
  intro ended
  have hends : Loader.Ends (Loader.new.loadAll history) ended (Loader.outcome source) :=
    Loader.ends_attempt _ source
  refine ⟨(Loader.ends_attempt Loader.new source).read, hends.read_later, ?_⟩
  rw [hends.issues]
  cases (Loader.outcome source).result with
  | ok profile => rfl
  | error e => cases e <;> rfl

def secondVersion (key : Value) : Value :=
  .map [(.str "version", .str "2"), (key, .null)]

theorem loadData_secondVersion {key : Value} (h : key.isOverlong = true) :
    (Profile.loadData (secondVersion key)).result
      = .error (.limit .overlong [⟨.versionUnsupported "2", "version"⟩]) := by
  let entries : Entries Value := [(.str "version", .str "2"), (key, .null)]
  have hversion : Schema.versionIssues (entries.get? "version")
      = [⟨.versionUnsupported "2", "version"⟩] := rfl
  have hfields : Schema.fieldIssues entries = [⟨.unknownField key, key.plainText⟩] := by
    cases key with
    | str s => cases h
    | _ => rfl
  have hlimit : (Fault.unknownField key).limit? = some .overlong :=
    Fault.limit?_of_overlong (by rw [Fault.spelled, List.any_cons, h, Bool.true_or])
  have hbreach : Limit.ofDocument? (secondVersion key)
      = some ⟨.overlong, [⟨.versionUnsupported "2", "version"⟩], []⟩ := by
    change Limit.ofDocument? (.map entries) = _
    rw [Limit.ofDocument?, hfields, hversion, Limit.ofIssues?, hlimit]
    rfl
  rw [Profile.loadData, hbreach]

/-- Where reading is given up at a limit, nothing is told of the issues found till then, and the
loader still holds them. -/
theorem issues_stay_behind_a_limit :
    let document := secondVersion (.int (Nat.pow 10 4300))
    let found : List Issue := [⟨.versionUnsupported "2", "version"⟩]
    (Loader.new.load (.data document)).1.result = .error (.limit .overlong found) ∧
    (Loader.new.load (.data document)).2.issues = found := by
  have hlong : (Value.int (Nat.pow 10 4300)).isOverlong = true := by decide +kernel
  generalize Value.int (Nat.pow 10 4300) = key at hlong
  intro document found
  have hends := Loader.ends_loadData Loader.new document
  have hgivenUp : (Profile.loadData document).result = .error (.limit .overlong found) :=
    loadData_secondVersion hlong
  constructor
  · exact (congrArg Traced.result hends.read).trans hgivenUp
  · refine hends.issues.trans ?_
    rw [hgivenUp]
    rfl

end RichTemplate
