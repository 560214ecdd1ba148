import FunctionKit.Proofs.LevelTexts
import FunctionKit.Proofs.NumberOrder
import FunctionKit.Proofs.SamplingRates

/-!
# Values of settings

Any environment gives settings, and each setting is decided by its own variable. For each there is a
relation between what the variable holds and what is read. Main statement: the settings and the
reports are exactly those that the four relations allow. A level and a rate that are set but refused
are reported, the level first, and nothing else is. What is read as a rate is always a number from
zero to one, so never NaN or an infinity.
-/

namespace FunctionKit.Logging.Settings

set_option autoImplicit false

open FunctionKit.Text

def InUnitInterval (rate : Binary64) : Prop :=
  rate.isFinite = true ∧ 0 ≤ rate.value ∧ rate.value ≤ 1

inductive ReadsService : Option String → String → Prop
  | unset : ReadsService none "service_undefined"
  | blank {text : String} (blank : trim text.toList = []) :
      ReadsService (some text) "service_undefined"
  | shown {text : String} (shown : trim text.toList ≠ []) : ReadsService (some text) text

/-- What a variable accepts is read without a report. If it is not set the fallback is read, and if
it is set to anything else the fallback is read and that is reported. -/
inductive ReadsOr {Value : Type} (accepts : String → Value → Prop) (fallback : Value)
    (report : String → Diagnostic) : Option String → Value × List Diagnostic → Prop
  | unset : ReadsOr accepts fallback report none (fallback, [])
  | accepted {text : String} {value : Value} (accepted : accepts text value) :
      ReadsOr accepts fallback report (some text) (value, [])
  | refused {text : String} (refused : ∀ value, ¬accepts text value) :
      ReadsOr accepts fallback report (some text) (fallback, [report text])

def ReadsLevel : Option String → Level × List Diagnostic → Prop :=
  ReadsOr (fun text level => Level.ofText text = .ok level) .info
    fun text => .levelIgnored ⟨String.ofList (trim text.toList)⟩

def ReadsRate : Option String → Binary64 × List Diagnostic → Prop :=
  ReadsOr (fun text rate => Binary64.ofText? (trim text.toList) = some rate ∧ InUnitInterval rate)
    .zero .sampleRateIgnored

/-- A word of agreement in any letter case, perhaps between blanks. -/
def Affirms (text : String) : Prop :=
  ∃ word ∈ ["1", "true", "yes", "on"], Alike (trim text.toList) word.toList

/-! ## Single variables -/

theorem reads_service_iff (text? : Option String) (service : String) :
    readService text? = service ↔ ReadsService text? service := by
  constructor
  · rintro rfl
    cases text? with
    | none => exact .unset
    | some text =>
        rw [readService]
        split
        · rename_i blank
          exact .blank ((trim_eq_nil_iff text.toList).mpr blank)
        · rename_i shown
          exact .shown fun blank => shown ((trim_eq_nil_iff text.toList).mp blank)
  · rintro (_ | blank | shown)
    · rfl
    · exact if_pos ((trim_eq_nil_iff _).mp blank)
    · exact if_neg fun blank => shown ((trim_eq_nil_iff _).mpr blank)

section Reports

variable {Value : Type} {accepts : String → Value → Prop} {fallback : Value}
  {report : String → Diagnostic}

theorem reads_or_iff {read : Option String → Value × List Diagnostic}
    (unset : read none = (fallback, []))
    (accepted : ∀ text value, accepts text value → read (some text) = (value, []))
    (refused : ∀ text, (∀ value, ¬accepts text value) → read (some text) = (fallback, [report text]))
    (text? : Option String) (outcome : Value × List Diagnostic) :
    read text? = outcome ↔ ReadsOr accepts fallback report text? outcome := by
  constructor
  · rintro rfl
    cases text? with
    | none =>
        rw [unset]
        exact .unset
    | some text =>
        by_cases usable : ∃ value, accepts text value
        · obtain ⟨value, accepts⟩ := usable
          rw [accepted text value accepts]
          exact .accepted accepts
        · rw [refused text (not_exists.mp usable)]
          exact .refused (not_exists.mp usable)
  · intro reads
    cases reads with
    | unset => exact unset
    | accepted accepts => exact accepted _ _ accepts
    | refused unusable => exact refused _ unusable

theorem ReadsOr.warns (warning : ∀ text, (report text).severity = "WARN") {text? : Option String}
    {value : Value} {reports : List Diagnostic}
    (reads : ReadsOr accepts fallback report text? (value, reports)) :
    ∀ report ∈ reports, report.severity = "WARN" := by
  cases reads with
  | unset | accepted => exact List.forall_mem_nil _
  | refused => exact List.forall_mem_singleton.mpr (warning _)

end Reports

theorem reads_level_iff (text? : Option String) (read : Level × List Diagnostic) :
    readLevel text? = read ↔ ReadsLevel text? read := by
  refine reads_or_iff rfl ?_ ?_ text? read
  · intro text level known
    rw [readLevel, known]
  · intro text unknown
    cases outcome : Level.ofText text with
    | ok level => exact absurd outcome (unknown level)
    | error ignored =>
        rw [readLevel, outcome, ((Level.of_text_error_iff text ignored).mp outcome).1]
        rfl

/-- The comparisons with the two bounds leave the finite numbers between them. -/
theorem is_probability_iff (rate : Binary64) :
    isProbability rate = true ↔ InUnitInterval rate := by
  have zeroFinite : Binary64.zero.isFinite = true := by decide +kernel
  have oneFinite : Binary64.one.isFinite = true := by decide +kernel
  have bounds : rate.isFinite = true →
      (isProbability rate = true ↔ 0 ≤ rate.value ∧ rate.value ≤ 1) := by
    intro finite
    rw [isProbability, Bool.and_eq_true, Binary64.le_iff_of_finite zeroFinite finite,
      Binary64.le_iff_of_finite finite oneFinite, Binary64.value_zero, Binary64.value_one]
  constructor
  · intro probable
    have finite := Binary64.finite_of_probability probable
    exact ⟨finite, (bounds finite).mp probable⟩
  · rintro ⟨finite, within⟩
    exact (bounds finite).mpr within

theorem reads_rate_iff (text? : Option String) (read : Binary64 × List Diagnostic) :
    readSampleRate text? = read ↔ ReadsRate text? read := by
  have accepted : ∀ (text : String) (rate : Binary64),
      (Binary64.ofText? (trim text.toList)).filter isProbability = some rate ↔
        Binary64.ofText? (trim text.toList) = some rate ∧ InUnitInterval rate := by
    intro text rate
    rw [Option.filter_eq_some_iff, is_probability_iff]
  refine reads_or_iff rfl ?_ ?_ text? read
  · intro text rate probable
    rw [readSampleRate, (accepted text rate).mpr probable]
  · intro text improbable
    simp only [← accepted, ← Ne.eq_def] at improbable
    rw [readSampleRate, Option.eq_none_iff_forall_ne_some.mpr improbable]
    rfl

theorem in_unit_interval_of_reads {text? : Option String} {rate : Binary64}
    {reports : List Diagnostic} (reads : ReadsRate text? (rate, reports)) :
    InUnitInterval rate := by
  have zero : InUnitInterval .zero := by
    rw [InUnitInterval, Binary64.value_zero]
    exact ⟨by decide +kernel, le_rfl, zero_le_one⟩
  cases reads with
  | unset | refused => exact zero
  | accepted accepted => exact accepted.2

theorem read_log_event_iff (text? : Option String) :
    readLogEvent text? = true ↔ ∃ text, text? = some text ∧ Affirms text := by
  cases text? with
  | none => simp [readLogEvent, default]
  | some text =>
      have plain : ∀ word ∈ affirmatives, ∀ d ∈ word.toList, IsPlain d := by
        simp [affirmatives, IsPlain]
      rw [readLogEvent, Option.any_eq_true]
      constructor
      · rintro ⟨small, lowered, listed⟩
        have member := List.contains_iff_mem.mp listed
        have letters := plain _ member
        rw [String.toList_ofList] at letters
        refine ⟨text, rfl, _, member, ?_⟩
        rw [String.toList_ofList]
        exact (lower_case_eq_iff letters).mp lowered
      · rintro ⟨_, same, word, member, alike⟩
        cases same
        refine ⟨word.toList, (lower_case_eq_iff (plain word member)).mpr alike, ?_⟩
        rw [String.ofList_toList]
        exact List.contains_iff_mem.mpr member

/-! ## All variables -/

theorem of_environment_eq (environment : Environment) :
    ofEnvironment environment =
      ({ service := readService (environment serviceVariable)
         level := (readLevel (environment levelVariable)).1
         sampleRate := (readSampleRate (environment sampleRateVariable)).1
         logEvent := readLogEvent (environment logEventVariable) },
       (readLevel (environment levelVariable)).2 ++
         (readSampleRate (environment sampleRateVariable)).2) :=
  rfl

/-- The settings and reports are those, and only those, that the variables allow one by one. The rate
is a number from zero to one, and every report is a warning. Environments that agree in a variable
agree in its setting, and if they agree in the level and the rate also in the reports. -/
theorem settings_are_read_one_by_one (environment : Environment) :
    (∀ settings reports, ofEnvironment environment = (settings, reports) ↔
      ∃ levelReports rateReports,
        ReadsService (environment serviceVariable) settings.service ∧
        ReadsLevel (environment levelVariable) (settings.level, levelReports) ∧
        ReadsRate (environment sampleRateVariable) (settings.sampleRate, rateReports) ∧
        (settings.logEvent = true ↔
          ∃ text, environment logEventVariable = some text ∧ Affirms text) ∧
        reports = levelReports ++ rateReports) ∧
      InUnitInterval (ofEnvironment environment).1.sampleRate ∧
      (∀ report ∈ (ofEnvironment environment).2, report.severity = "WARN") ∧
      ∀ other : Environment,
        let read := ofEnvironment environment
        let again := ofEnvironment other
        (other serviceVariable = environment serviceVariable →
            again.1.service = read.1.service) ∧
          (other levelVariable = environment levelVariable → again.1.level = read.1.level) ∧
          (other sampleRateVariable = environment sampleRateVariable →
            again.1.sampleRate = read.1.sampleRate) ∧
          (other logEventVariable = environment logEventVariable →
            again.1.logEvent = read.1.logEvent) ∧
          (other levelVariable = environment levelVariable →
            other sampleRateVariable = environment sampleRateVariable → again.2 = read.2) := by
  have readsLevel := (reads_level_iff (environment levelVariable) _).mp rfl
  have readsRate := (reads_rate_iff (environment sampleRateVariable) _).mp rfl
  refine ⟨?_, in_unit_interval_of_reads readsRate, ?_, ?_⟩
  · rintro ⟨service, level, sampleRate, logEvent⟩ reports
    simp only [← reads_service_iff, ← reads_level_iff, ← reads_rate_iff, ← read_log_event_iff]
    rw [of_environment_eq, Prod.mk.injEq, Settings.mk.injEq]
    constructor
    · rintro ⟨⟨rfl, rfl, rfl, rfl⟩, rfl⟩
      exact ⟨_, _, rfl, rfl, rfl, Iff.rfl, rfl⟩
    · rintro ⟨levelReports, rateReports, rfl, levelRead, rateRead, logged, rfl⟩
      rw [levelRead, rateRead, Bool.eq_iff_iff.mpr logged]
      exact ⟨⟨rfl, rfl, rfl, rfl⟩, rfl⟩
  · exact List.forall_mem_append.mpr ⟨readsLevel.warns fun _ => rfl, readsRate.warns fun _ => rfl⟩
  · intro other read again
    refine ⟨congrArg readService, congrArg fun text? => (readLevel text?).1,
      congrArg fun text? => (readSampleRate text?).1, congrArg readLogEvent, ?_⟩
    exact congrArg₂ fun level? rate? => (readLevel level?).2 ++ (readSampleRate rate?).2

example :
    ofEnvironment (fun name =>
      if name = levelVariable then some "loud\n"
      else if name = sampleRateVariable then some " NaN"
      else none) = (default, [.levelIgnored ⟨"loud"⟩, .sampleRateIgnored " NaN"]) := by
  decide +kernel

end FunctionKit.Logging.Settings
