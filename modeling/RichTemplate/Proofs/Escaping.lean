import RichTemplate.Proofs.Composing
import RichTemplate.Proofs.Exits

/-!
# Failures that escape loading

Loading a profile settles if it ends with a profile or with the issues of an invalid one. It does
for what is missing and for texts that are no documents, but not for bytes that are no text, for
scalars that stand for nothing and for documents beyond the limits of reading. Those failures end
a command without an exit code.
-/

namespace RichTemplate

/-! ### Broken texts -/

theorem length_normalizeLines_le (cs : List Char) : (normalizeLines cs).length ≤ cs.length := by
  fun_induction normalizeLines cs with
  | case1 => exact Nat.le_refl 0
  | case2 cs ih => exact Nat.le_succ_of_le (Nat.succ_le_succ ih)
  | case3 cs _ ih => exact Nat.succ_le_succ ih
  | case4 c cs _ _ ih => exact Nat.succ_le_succ ih

theorem length_le_size_utf8Encode (cs : List Char) : cs.length ≤ cs.utf8Encode.size := by
  induction cs with
  | nil => exact Nat.zero_le _
  | cons c cs ih =>
    have hsize : (String.utf8EncodeChar c).toByteArray.size = c.utf8Size := by simp
    have hpos := c.utf8Size_pos
    rw [List.utf8Encode_cons, List.utf8Encode_singleton, ByteArray.size_append, hsize,
      List.length_cons]
    omega

theorem length_le_of_decodeText? {bytes : ByteArray} {cs : List Char}
    (h : decodeText? bytes = some cs) : cs.length ≤ bytes.size := by
  obtain ⟨s, hs, rfl⟩ := Option.map_eq_some_iff.mp h
  have hbytes : s.toList.utf8Encode = bytes := by
    rw [String.utf8Encode_toList]
    unfold String.fromUTF8? at hs
    split at hs
    next hvalid =>
      obtain rfl := Option.some.inj hs
      rfl
    next => cases hs
  calc (normalizeLines s.toList).length ≤ s.toList.length := length_normalizeLines_le _
    _ ≤ s.toList.utf8Encode.size := length_le_size_utf8Encode _
    _ = bytes.size := by rw [hbytes]

namespace Yaml.Source

variable {bytes : ByteArray}

theorem length_textBefore_le (bytes : ByteArray) (i : Nat) : (textBefore bytes i).length ≤ i := by
  rw [textBefore]
  cases h : decodeText? (bytes.extract 0 i) with
  | none => exact Nat.zero_le i
  | some cs =>
    have hsize : (bytes.extract 0 i).size ≤ i := by
      rw [ByteArray.size_extract]
      omega
    exact Nat.le_trans (length_le_of_decodeText? h) hsize

theorem size_pos_of_broken (h : decodeText? bytes = none) : 0 < bytes.size := by
  by_contra hsize
  have hempty : bytes = ByteArray.empty := ByteArray.size_eq_zero_iff.mp (by omega)
  rw [hempty] at h
  exact absurd h (by decide +kernel)

theorem countBefore_lt (h : decodeText? bytes = none) (sound i : Nat) :
    countBefore bytes sound i < bytes.size := by
  have hpos := size_pos_of_broken h
  unfold countBefore
  dsimp only
  generalize min sound (characterStart bytes 3 i) = stop
  -- up to the end there is no text at all, and before it there are too few bytes
  by_cases hstop : stop < bytes.size
  · have hlength := length_textBefore_le bytes stop
    omega
  · have hall : bytes.extract 0 stop = bytes := by
      apply ByteArray.ext
      rw [ByteArray.data_extract, Array.extract_eq_self_of_le]
      exact Nat.le_of_not_lt hstop
    have hnone : textBefore bytes stop = [] := by
      rw [textBefore, hall, h]
      rfl
    rw [hnone, List.length_nil]
    omega

theorem countAtFault_of_decoded (sound broken fuel : Nat) (last : Chunk) (count : Nat) :
    countAtFault bytes sound broken fuel last bytes.size count = count := by
  cases fuel with
  | zero => rfl
  | succ fuel => simp [countAtFault]

theorem countAtFault_lt (h : decodeText? bytes = none) (hsize : bytes.size ≤ chunkSize)
    (sound broken fuel : Nat) (last : Chunk) :
    countAtFault bytes sound broken fuel last 0 0 < bytes.size := by
  have hpos := size_pos_of_broken h
  cases fuel with
  | zero => exact hpos
  | succ fuel =>
    have hall : ∀ wanted, min bytes.size (0 + last.next wanted) = bytes.size := by
      intro wanted
      have hnext : chunkSize ≤ last.next wanted := Nat.le_max_left _ _
      omega
    -- the first round decodes all there is, so the next one, if any, finds nothing left
    rw [countAtFault, hall]
    dsimp only
    split
    · exact hpos
    · rw [countAtFault_of_decoded]
      exact countBefore_lt h sound bytes.size

/-- A file of one chunk that is no text cannot be read at all. -/
theorem ofBytes_of_broken (h : decodeText? bytes = none) (hsize : bytes.size ≤ chunkSize) :
    ofBytes bytes = .error .notUtf8 := by
  let sound := soundLength bytes bytes.size 0
  let broken := sound + soundStart (bytes.extract sound (sound + 3)).toList
  have hcount := countAtFault_lt h hsize sound broken bytes.size ⟨0, 0⟩
  have hblock : countAtFault bytes sound broken bytes.size ⟨0, 0⟩ 0 0 / blockLength
      < firstBlocks := by
    refine Nat.div_lt_of_lt_mul (Nat.lt_of_lt_of_le hcount ?_)
    exact hsize
  rw [ofBytes, h]
  change (upToBlock _ _ _ >>= fun source => ofText source.text source.stop) = _
  rw [upToBlock, if_pos hblock]
  rfl

inductive Stops (bytes : ByteArray) : Error → Prop
  | malformed : Stops bytes .malformed
  | notUtf8 (h : ¬ bytes.IsValidUTF8) : Stops bytes .notUtf8

def StopsBy (P : Error → Prop) (source : Except Error Source) : Prop :=
  FailsBy P source ∧ ∀ s, source = .ok s → ∀ e, s.stop = some e → P e

theorem stopsBy_upToBlock {P : Error → Prop} {e : Error} (h : P e) (text : List Char)
    (block : Nat) : StopsBy P (upToBlock text block e) := by
  unfold upToBlock
  split
  · exact ⟨.error h, by rintro _ ⟨⟩⟩
  · refine ⟨.ok _, ?_⟩
    rintro _ ⟨⟩ _ ⟨⟩
    exact h

theorem stopsBy_ofText {P : Error → Prop} (hmalformed : P .malformed) (text : List Char)
    {stop : Option Error} (hstop : ∀ e, stop = some e → P e) : StopsBy P (ofText text stop) := by
  unfold ofText
  split
  · exact stopsBy_upToBlock hmalformed text _
  · refine ⟨.ok _, ?_⟩
    rintro _ ⟨⟩
    exact hstop

theorem stopsBy_ofBytes (bytes : ByteArray) : StopsBy (Stops bytes) (ofBytes bytes) := by
  cases h : decodeText? bytes with
  | some text =>
    rw [ofBytes, h]
    exact stopsBy_ofText .malformed text (by rintro _ ⟨⟩)
  | none =>
    have hinvalid : Stops bytes .notUtf8 := .notUtf8 (Command.decodeText?_eq_none_iff.mp h)
    let sound := soundLength bytes bytes.size 0
    let broken := sound + soundStart (bytes.extract sound (sound + 3)).toList
    let count := countAtFault bytes sound broken bytes.size ⟨0, 0⟩ 0 0
    have hblock := stopsBy_upToBlock hinvalid (textBefore bytes sound) (count / blockLength)
    rw [ofBytes, h]
    change StopsBy _ (upToBlock (textBefore bytes sound) (count / blockLength) .notUtf8 >>=
      fun source => ofText source.text source.stop)
    cases hsource : upToBlock (textBefore bytes sound) (count / blockLength) .notUtf8 with
    | error e => exact ⟨.error (hblock.1 e hsource), by rintro _ ⟨⟩⟩
    | ok source => exact stopsBy_ofText .malformed source.text (hblock.2 source hsource)

end Yaml.Source

/-! ### Loading that settles -/

namespace Profile

/-- Loading ends with a profile, or with the issues of an invalid one. -/
inductive Settled : Except ProfileError Profile → Prop
  | profile (p : Profile) : Settled (.ok p)
  | invalid (issues : List Issue) : Settled (.error (.invalid issues))

instance (loaded : Except ProfileError Profile) : Decidable (Settled loaded) :=
  match loaded with
  | .ok p => isTrue (.profile p)
  | .error (.invalid issues) => isTrue (.invalid issues)
  | .error .notUtf8 => isFalse (by rintro ⟨⟩)
  | .error (.badScalar _) => isFalse (by rintro ⟨⟩)
  | .error (.limit _ _) => isFalse (by rintro ⟨⟩)

theorem settled_loadData_iff {document : Value} :
    Settled (loadData document).result ↔ Limit.Spares document := by
  by_cases hspares : Limit.Spares document
  · refine iff_of_true ?_ hspares
    rw [loadData_of_spared hspares, Traced.mapResultError]
    cases (ofValue document).result with
    | ok p => exact .profile p
    | error issues => exact .invalid issues
  · refine iff_of_false ?_ hspares
    obtain ⟨limit, found, hlimit⟩ := loadData_of_not_spared hspares
    rw [hlimit]
    rintro ⟨⟩

theorem settled_ofYaml_iff {e : Yaml.Error} :
    Settled (.error (.ofYaml e)) ↔ e = .malformed ∨ e = .endsEarly := by
  cases e with
  | malformed => exact iff_of_true (.invalid _) (Or.inl rfl)
  | endsEarly => exact iff_of_true (.invalid _) (Or.inr rfl)
  | _ =>
    refine iff_of_false (fun h => ?_) (by simp)
    cases h

def reading (bytes : ByteArray) : Except Yaml.Error Value :=
  (Yaml.Source.ofBytes bytes).bind Yaml.read

/-- Bytes whose loading ends otherwise, by what is wrong with them. -/
inductive Escapes (bytes : ByteArray) : Prop
  /-- The bytes are no text, and reading comes to where they break off. -/
  | encoding (hbroken : ¬ bytes.IsValidUTF8) (h : reading bytes = .error .notUtf8)
  /-- An escape names a character that there is not. -/
  | codePoint {source : Yaml.Source} {code : Nat} (hsource : Yaml.Source.ofBytes bytes = .ok source)
    (htoken : .invalid (.codePointOutOfRange code) ∈ Yaml.Token.ofSource source)
    (h : reading bytes = .error (.codePointOutOfRange code))
  /-- The version that is asked for has too many digits. -/
  | version {source : Yaml.Source} {digits : Nat} (hsource : Yaml.Source.ofBytes bytes = .ok source)
    (htoken : .invalid (.tooManyDigits digits) ∈ Yaml.Token.ofSource source)
    (h : reading bytes = .error (.tooManyDigits digits))
  /-- Collections lie too deep within one another, or what should be a text has itself under it. -/
  | nesting (h : reading bytes = .error .tooDeep)
  /-- A scalar stands for nothing. -/
  | scalar {source : Yaml.Source} {composition : Yaml.Composition} {e : Yaml.Error}
    (hsource : Yaml.Source.ofBytes bytes = .ok source)
    (hcomposed : Yaml.Composition.ofTokens? (Yaml.Token.ofSource source) = .ok (some composition))
    (hunread : Yaml.Build.Unread composition.graph e) (hdocument : e ≠ .malformed ∧ e ≠ .endsEarly)
    (h : reading bytes = .error e)
  /-- An issue of the document spells an integer that is too long, or stands for what has no end. -/
  | limit {document : Value} {i : Issue} (h : reading bytes = .ok document)
    (hi : i ∈ issues document)
    (hlimit : i.fault = .endless ∨ i.fault.spelled.any Value.isOverlong = true)

theorem settled_load_bytes_iff {bytes : ByteArray} : Settled (load (.bytes bytes)).result ↔
    (∀ e, reading bytes = .error e → e = .malformed ∨ e = .endsEarly) ∧
      ∀ document, reading bytes = .ok document → Limit.Spares document := by
  have hdocument : readDocument (.bytes bytes) = (reading bytes).mapError .ofYaml := rfl
  rw [load, hdocument]
  cases reading bytes with
  | error e => simpa [Except.mapError, Traced.fail, Traced.ofExcept] using settled_ofYaml_iff
  | ok document => simpa [Except.mapError] using settled_loadData_iff

/-- Why the reading of bytes fails, unless they are no document. -/
theorem escapes_of_reading_error {bytes : ByteArray} {e : Yaml.Error}
    (h : reading bytes = .error e) (hdocument : e ≠ .malformed ∧ e ≠ .endsEarly) :
    Escapes bytes := by
  obtain ⟨hfails, hstops⟩ := Yaml.Source.stopsBy_ofBytes bytes
  have hstopped : Yaml.Source.Stops bytes e → Escapes bytes := by
    rintro (_ | hbroken)
    · exact absurd rfl hdocument.1
    · exact .encoding hbroken h
  cases hsource : Yaml.Source.ofBytes bytes with
  | error e' =>
    rw [reading, hsource] at h
    obtain rfl := Except.error.inj h
    exact hstopped (hfails _ hsource)
  | ok source =>
    have hread : Yaml.read source = .error e := by rwa [reading, hsource] at h
    rw [Yaml.read] at hread
    cases hcomposed : Yaml.Composition.ofTokens? (Yaml.Token.ofSource source) with
    | error e' =>
      rw [hcomposed] at hread
      obtain rfl := Except.error.inj hread
      cases Yaml.Composition.faulty_of_ofTokens? hcomposed with
      | malformed => exact absurd rfl hdocument.1
      | tooDeep => exact .nesting h
      | token htoken =>
        obtain hlexical | hstop := Yaml.lexical_or_stop_of_mem_ofSource htoken
        · cases hlexical with
          | malformed => exact absurd rfl hdocument.1
          | endsEarly => exact absurd rfl hdocument.2
          | codePoint code => exact .codePoint hsource htoken h
          | digits count => exact .version hsource htoken h
        · exact hstopped (hstops source hsource _ hstop)
    | ok composed =>
      rw [hcomposed] at hread
      cases composed with
      | none => cases hread
      | some composition =>
        have hvalue : composition.value = .error e := hread
        cases Yaml.Composition.faulty_of_value hvalue with
        | malformed => exact absurd rfl hdocument.1
        | tooDeep => exact .nesting h
        | unread hunread => exact .scalar hsource hcomposed hunread hdocument h

theorem escapes_iff {bytes : ByteArray} :
    Escapes bytes ↔ ¬ Settled (load (.bytes bytes)).result := by
  rw [settled_load_bytes_iff]
  constructor
  · rintro hescapes ⟨herror, hspares⟩
    have hnot {e : Yaml.Error} (h : reading bytes = .error e) :
        e ≠ .malformed ∧ e ≠ .endsEarly → False := fun hdocument =>
      (herror e h).elim hdocument.1 hdocument.2
    cases hescapes with
    | encoding _ h => exact hnot h (by simp)
    | codePoint _ _ h => exact hnot h (by simp)
    | version _ _ h => exact hnot h (by simp)
    | nesting h => exact hnot h (by simp)
    | scalar _ _ _ hdocument h => exact hnot h hdocument
    | limit h hi hlimit => exact Fault.limit?_ne_none_iff.mpr hlimit (hspares _ h _ hi)
  · intro hunsettled
    cases h : reading bytes with
    | error e =>
      refine escapes_of_reading_error h ⟨?_, ?_⟩
      all_goals
        rintro rfl
        exact hunsettled ⟨by simp [h], by simp [h]⟩
    | ok document =>
      have hlimit : ¬ Limit.Spares document := fun hspares =>
        hunsettled ⟨by simp [h], fun document' h' => Except.ok.inj (h.symm.trans h') ▸ hspares⟩
      rw [Limit.Spares] at hlimit
      push Not at hlimit
      obtain ⟨i, hi, hlimit⟩ := hlimit
      exact .limit h hi (Fault.limit?_ne_none_iff.mp hlimit)

theorem settled_load_iff {file : FileContent} :
    Settled (load file).result ↔ ∀ bytes, file = .bytes bytes → ¬ Escapes bytes := by
  cases file with
  | missing => exact iff_of_true (.invalid _) (by rintro _ ⟨⟩)
  | directory => exact iff_of_true (.invalid _) (by rintro _ ⟨⟩)
  | locked => exact iff_of_true (.invalid _) (by rintro _ ⟨⟩)
  | bytes content =>
    rw [← not_iff_not, ← escapes_iff]
    constructor
    · exact fun hescapes hnone => hnone content rfl hescapes
    · intro hsome
      by_contra hnot
      exact hsome (by rintro _ ⟨⟩; exact hnot)

theorem load_of_broken {bytes : ByteArray} (h : ¬ bytes.IsValidUTF8)
    (hsize : bytes.size ≤ Yaml.Source.chunkSize) :
    (load (.bytes bytes)).result = .error .notUtf8 := by
  have hbroken := Command.decodeText?_eq_none_iff.mpr h
  rw [load, readDocument, Yaml.Source.ofBytes_of_broken hbroken hsize]
  rfl

end Profile

namespace Command

open Profile (Settled)

structure EndsBy (loaded : Except ProfileError Profile) (result : Except Failure Nat) : Prop where
  two_iff : result = .ok 2 ↔ ∃ issues, loaded = .error (.invalid issues)
  escapes_iff : (∃ e, result = .error (.profile e)) ↔ ¬ Settled loaded

section Ends

variable {files : Files} {name : String} {source : TemplateSource} {settings : Settings}
  {content : FileContent} {text : Option String}

theorem endsBy_error (logger : String) (records : List LogRecord) (e : ProfileError) :
    EndsBy (.error e) (Outcome.ofProfileError logger records e).result := by
  cases e with
  | invalid issues =>
    constructor
    · exact iff_of_true rfl ⟨issues, rfl⟩
    · exact iff_of_false (by rintro ⟨_, ⟨⟩⟩) fun h => h (.invalid issues)
  | _ =>
    constructor
    · exact iff_of_false (by rintro ⟨⟩) (by rintro ⟨_, ⟨⟩⟩)
    · exact iff_of_true ⟨_, rfl⟩ (by rintro ⟨⟩)

theorem endsBy_ok (profile : Profile) {result : Except Failure Nat} (htwo : result ≠ .ok 2)
    (hescapes : ∀ e, result ≠ .error (.profile e)) : EndsBy (.ok profile) result where
  two_iff := iff_of_false htwo (by rintro ⟨_, ⟨⟩⟩)
  escapes_iff := iff_of_false (fun ⟨e, he⟩ => hescapes e he) fun h => h (.profile profile)

theorem printed_ne (format : OutputFormat) (segments : List Value) (e : ProfileError) :
    Render.printed format segments ≠ .error (.profile e) := by
  intro h
  cases format with
  | text =>
    rw [Render.printed] at h
    cases htext : Segment.textOf segments <;> rw [htext] at h <;> cases h
  | json =>
    rw [Render.printed] at h
    cases hdata : Segment.dataOf segments with
    | error e =>
      rw [hdata] at h
      cases h
    | ok ds =>
      rw [hdata] at h
      change (JsonText.write 0 (.list ds)).mapError Failure.json = _ at h
      cases hwrite : JsonText.write 0 (.list ds) <;> rw [hwrite] at h <;> cases h

theorem endsBy_withProfile (profile : Profile) (template : String) (settings : Settings)
    (records : List LogRecord) :
    EndsBy (.ok profile) (Render.withProfile profile template settings records).result := by
  cases hrun : (profile.interpolate template).result with
  | error e =>
    rw [result_withProfile_of_not_filled hrun]
    exact endsBy_ok profile (by rintro ⟨⟩) (by rintro _ ⟨⟩)
  | ok segments =>
    cases hprinted : Render.printed settings.format segments with
    | error e =>
      rw [result_withProfile_of_not_printed hrun hprinted]
      refine endsBy_ok profile (by rintro ⟨⟩) fun e' he => ?_
      obtain rfl := Except.error.inj he
      exact printed_ne _ _ _ hprinted
    | ok text =>
      rw [(withProfile_of_printed hrun hprinted records).1]
      refine endsBy_ok profile (fun htwo => ?_) (by rintro _ ⟨⟩)
      split at htwo <;> cases htwo

theorem endsBy_render (hfound : files.atResolved (.ofText name) = .ok content)
    (hcontent : content ≠ .missing) (hread : source.read files = .ok text) (settings : Settings) :
    EndsBy (Profile.load content).result (render files name source settings).result := by
  rw [render_of_found hfound hcontent, hread]
  dsimp only
  cases (Profile.load content).result with
  | error e => exact endsBy_error _ _ e
  | ok profile =>
    cases text with
    | none => exact endsBy_ok profile (by rintro ⟨⟩) (by rintro _ ⟨⟩)
    | some template => exact endsBy_withProfile profile template settings _

theorem endsBy_inspect (hfound : files.atResolved (.ofText name) = .ok content)
    (hcontent : content ≠ .missing) (hread : source.read files = .ok text)
    (hnames : Names settings name) :
    EndsBy (Profile.load content).result (inspect files source settings).result := by
  rw [inspect_of_names hread hnames, inspect_withProfile_eq hfound hcontent]
  cases (Profile.load content).result with
  | error e => exact endsBy_error _ _ e
  | ok profile =>
    unfold Inspect.list
    dsimp only
    apply endsBy_ok
    · intro htwo
      split at htwo <;> cases htwo
    · intro e herror
      split at herror <;> cases herror

end Ends

/-- **Loading settles unless the bytes of the file escape.** Loading a file ends with a profile or
with the issues of an invalid one, unless the file holds bytes that are no text, that name a
character or ask for a version that there cannot be, that nest too deep, that hold a scalar that
stands for nothing, or whose document has an issue that cannot be told. Bytes of one chunk that are
no text always escape. Once a template has been read, a command ends with the code of an invalid
profile exactly if loading found one, and where loading does not settle, its failure ends the
command. -/
theorem loading_settles_iff (file : FileContent) :
    (Settled (Profile.load file).result ↔
      ∀ bytes, file = .bytes bytes → ¬ Profile.Escapes bytes) ∧
    (∀ bytes, file = .bytes bytes → ¬ bytes.IsValidUTF8 → bytes.size ≤ Yaml.Source.chunkSize →
      Profile.Escapes bytes) ∧
    ∀ (files : Files) (name : String) (source : TemplateSource) (text : Option String),
      files.atResolved (.ofText name) = .ok file → file ≠ .missing →
      source.read files = .ok text → ∀ settings,
        EndsBy (Profile.load file).result (render files name source settings).result ∧
        (Names settings name →
          EndsBy (Profile.load file).result (inspect files source settings).result) := by
  refine ⟨Profile.settled_load_iff, fun bytes _ hinvalid hsize => ?_,
    fun files name source text hfound hfile hread settings => ?_⟩
  · rw [Profile.escapes_iff, Profile.load_of_broken hinvalid hsize]
    rintro ⟨⟩
  · exact ⟨endsBy_render hfound hfile hread settings, endsBy_inspect hfound hfile hread⟩

namespace Sample

def notText : FileContent :=
  .bytes ⟨#[0xff]⟩

end Sample

theorem loading_settles_iff_of_sample :
    ¬ Settled (Profile.load Sample.notText).result ∧
      (Sample.filesOf .directory).atResolved (.ofText "p") = .ok .directory ∧
      (TemplateSource.text "to all").read (Sample.filesOf .directory) = .ok (some "to all") ∧
      (render (Sample.filesOf .directory) "p" (.text "to all") .initial).result = .ok 2 := by
  obtain ⟨hsettled, hbroken, -⟩ := loading_settles_iff Sample.notText
  have hescapes := hbroken _ rfl (by decide +kernel) (by decide)
  obtain ⟨-, -, hends⟩ := loading_settles_iff .directory
  obtain ⟨hrender, -⟩ := hends (Sample.filesOf .directory) "p" (.text "to all") _ rfl
    FileContent.noConfusion rfl .initial
  exact ⟨fun h => hsettled.mp h _ rfl hescapes, rfl, rfl, hrender.two_iff.mpr ⟨_, rfl⟩⟩

/-- Bytes that are no text and a date that is none escape loading, and end commands. -/
theorem failures_escape_loading :
    ¬ Settled (Profile.load Sample.notText).result ∧
      ¬ Settled (Profile.load (.bytes "version: '1'\nname: 2020-13-45".toUTF8)).result ∧
      (∃ e, (render (Sample.filesOf Sample.notText) "p" (.text "to all") .initial).result
        = .error (.profile e)) ∧
      ∃ e, (inspect (Sample.filesOf Sample.notText) (.text "to all")
        { Settings.initial with profile := some "p" }).result = .error (.profile e) := by
  have hescapes : ¬ Settled (Profile.load Sample.notText).result := by decide +kernel
  have hrender := @endsBy_render (Sample.filesOf Sample.notText) "p" (.text "to all") _ _ rfl
    FileContent.noConfusion rfl .initial
  have hinspect := @endsBy_inspect (Sample.filesOf Sample.notText) "p" (.text "to all")
    { Settings.initial with profile := some "p" } _ _ rfl FileContent.noConfusion rfl
    ⟨rfl, by decide⟩
  exact ⟨hescapes, by decide +kernel, hrender.escapes_iff.mpr hescapes,
    hinspect.escapes_iff.mpr hescapes⟩

end Command

end RichTemplate
