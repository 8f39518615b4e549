/-
Configurations that environments describe.

Five variables are read as numbers or as a switch.  If one of them is set to something else,
there is no configuration, and the first such variable is the error.  If none is, each part of
the configuration reflects the variable that it is read from, whatever the others are set to:
it is the default if the variable is unset, and what its text means if it is set.
-/

import WorkflowBus.Configuration
import WorkflowBus.Proofs.Decimal

namespace WorkflowBus

namespace Environment

/-- The variable is set to the text: its bytes are those of the text in UTF-8. -/
def Sets (environment : Environment) (name text : String) : Prop :=
  environment.values.lookup name = some text.toUTF8.data.toList

theorem fromUTF8?_eq_some_iff {bytes : ByteArray} {text : String} :
    String.fromUTF8? bytes = some text ↔ bytes = text.toUTF8 := by
  unfold String.fromUTF8?
  constructor
  · intro read
    split at read
    · cases read
      rfl
    · cases read
  · rintro rfl
    exact dif_pos text.isValidUTF8

theorem get?_eq_some_iff {environment : Environment} {name text : String} :
    environment.get? name = some text ↔ environment.Sets name text := by
  unfold get? Sets
  cases environment.values.lookup name with
  | none => exact iff_of_false nofun nofun
  | some bytes =>
      rw [Option.bind_eq_bind, Option.bind_some, fromUTF8?_eq_some_iff, Option.some.injEq]
      constructor
      · intro same
        rw [← same]
      · rintro rfl
        rfl

theorem get?_eq_none_iff {environment : Environment} {name : String} :
    environment.get? name = none ↔ ∀ text, ¬environment.Sets name text := by
  simp only [← get?_eq_some_iff, Option.eq_none_iff_forall_ne_some, ne_eq]

theorem Sets.unique {environment : Environment} {name left right : String}
    (isLeft : environment.Sets name left) (isRight : environment.Sets name right) : left = right :=
  Option.some.inj ((get?_eq_some_iff.mpr isLeft).symm.trans (get?_eq_some_iff.mpr isRight))

end Environment

namespace Configuration

variable {environment : Environment} {α : Type} {name : String} {Means : String → α → Prop}

/-- A value is settled by a variable: it is the default if the variable is unset, and what the
variable's text means if it is set. -/
def Settles (environment : Environment) (name : String) (Means : String → α → Prop)
    (default value : α) : Prop :=
  (∀ text, ¬environment.Sets name text) ∧ value = default ∨
    ∃ text, environment.Sets name text ∧ Means text value

/-- A variable is set to a text that is none of those that can be read of it. -/
def Illegible (environment : Environment) (setting : String × (String → Prop)) : Prop :=
  ∃ text, environment.Sets setting.1 text ∧ ¬setting.2 text

theorem Settles.legible {default value : α}
    (settles : Settles environment name Means default value) :
    ¬Illegible environment (name, fun text => ∃ value, Means text value) := by
  intro ⟨text, set, illegible⟩
  rcases settles with ⟨unset, _default⟩ | ⟨other, setOther, means⟩
  · exact unset text set
  · cases set.unique setOther
    exact illegible ⟨value, means⟩

/-- What a text means, where a value may be absent. -/
def Present (Means : String → α → Prop) (text : String) (value : Option α) : Prop :=
  ∃ meant, Means text meant ∧ value = some meant

theorem Settles.legible_of_present {default value : Option α}
    (settles : Settles environment name (Present Means) default value) :
    ¬Illegible environment (name, fun text => ∃ value, Means text value) := by
  intro ⟨text, set, illegible⟩
  refine settles.legible ⟨text, set, ?_⟩
  intro ⟨_value, meant, means, _same⟩
  exact illegible ⟨meant, means⟩

theorem Settles.unique
    (functional : ∀ text left right, Means text left → Means text right → left = right)
    {default left right : α} (isLeft : Settles environment name Means default left)
    (isRight : Settles environment name Means default right) : left = right := by
  rcases isLeft with ⟨unset, rfl⟩ | ⟨text, set, means⟩
  · rcases isRight with ⟨_unset, rfl⟩ | ⟨text, set, _means⟩
    · rfl
    · exact absurd set (unset text)
  · rcases isRight with ⟨unset, _default⟩ | ⟨other, setOther, meansOther⟩
    · exact absurd set (unset text)
    · cases set.unique setOther
      exact functional text left right means meansOther

theorem optional_cases {read? : String → Option α}
    (reads : ∀ text value, read? text = some value ↔ Means text value) :
    Illegible environment (name, fun text => ∃ value, Means text value) ∧
        optional environment name read? = .error (.invalidValue name) ∨
      ∃ value, optional environment name read? = .ok value ∧
        Settles environment name (Present Means) none value := by
  unfold optional
  cases found : environment.get? name with
  | none => exact Or.inr ⟨none, rfl, Or.inl ⟨Environment.get?_eq_none_iff.mp found, rfl⟩⟩
  | some text =>
      have set := Environment.get?_eq_some_iff.mp found
      simp only
      cases read : read? text with
      | none =>
          refine Or.inl ⟨⟨text, set, fun ⟨value, means⟩ => ?_⟩, rfl⟩
          cases read.symm.trans ((reads text value).mpr means)
      | some value =>
          have means := (reads text value).mp read
          exact Or.inr ⟨some value, rfl, Or.inr ⟨text, set, value, means, rfl⟩⟩

theorem withDefault_cases {read? : String → Option α}
    (reads : ∀ text value, read? text = some value ↔ Means text value) (default : α) :
    Illegible environment (name, fun text => ∃ value, Means text value) ∧
        withDefault environment name read? default = .error (.invalidValue name) ∨
      ∃ value, withDefault environment name read? default = .ok value ∧
        Settles environment name Means default value := by
  unfold withDefault
  rcases optional_cases reads with ⟨illegible, found⟩ | ⟨value, found, settles⟩
  · rw [found]
    exact Or.inl ⟨illegible, rfl⟩
  · rw [found]
    refine Or.inr ⟨value.getD default, rfl, ?_⟩
    rcases settles with ⟨unset, rfl⟩ | ⟨text, set, meant, means, rfl⟩
    · exact Or.inl ⟨unset, rfl⟩
    · exact Or.inr ⟨text, set, means⟩

/-- The text is a numeral of the number, which fits into the given count of bits. -/
def Fits (bits : Nat) (text : String) (number : Nat) : Prop :=
  Decimal.Denotes text.toList number ∧ number < 2 ^ bits

theorem Fits.unique {bits : Nat} (text : String) (left right : Nat) (isLeft : Fits bits text left)
    (isRight : Fits bits text right) : left = right :=
  isLeft.1.unique isRight.1

theorem bounded?_eq_some_iff_fits {bits limit : Nat} (bound : limit + 1 = 2 ^ bits) (text : String)
    (number : Nat) : Decimal.bounded? limit text = some number ↔ Fits bits text number := by
  rw [Decimal.bounded?_eq_some_iff, Fits, ← bound, Nat.lt_succ_iff]

def Says (text : String) (flag : Bool) : Prop :=
  text = if flag then "true" else "false"

theorem switch?_eq_some_iff (text : String) (flag : Bool) :
    switch? text = some flag ↔ Says text flag := by
  constructor
  · intro read
    unfold switch? at read
    split at read <;> cases read <;> rfl
  · rintro rfl
    cases flag <;> rfl

theorem Says.unique (text : String) (left right : Bool) (isLeft : Says text left)
    (isRight : Says text right) : left = right :=
  Option.some.inj
    (((switch?_eq_some_iff text left).mpr isLeft).symm.trans
      ((switch?_eq_some_iff text right).mpr isRight))

/-! ### Configurations -/

/-- The variables that are read as numbers and as a switch, in the order in which they are read,
each with what can be read of it. -/
def checked : List (String × (String → Prop)) :=
  [("DATABASE_MAX_CONNECTIONS", fun text => ∃ number, Fits 32 text number),
    ("PORT", fun text => ∃ number, Fits 16 text number),
    ("EVENT_HANDLER_TIMEOUT_MS", fun text => ∃ number, Fits 64 text number),
    ("EVENT_BUS_STRICT_WIRING", fun text => ∃ flag, Says text flag),
    ("EVENT_REGISTRY_EXPECTED_ENTRIES", fun text => ∃ number, Fits 64 text number)]

/-- The first variable of a list that is illegible has the given name. -/
inductive FirstIllegible (environment : Environment) :
    List (String × (String → Prop)) → String → Prop where
  | here {setting : String × (String → Prop)} {rest : List (String × (String → Prop))} :
      Illegible environment setting → FirstIllegible environment (setting :: rest) setting.1
  | later {setting : String × (String → Prop)} {rest : List (String × (String → Prop))}
      {name : String} : ¬Illegible environment setting →
      FirstIllegible environment rest name → FirstIllegible environment (setting :: rest) name

theorem FirstIllegible.exists {settings : List (String × (String → Prop))}
    (first : FirstIllegible environment settings name) :
    ∃ setting ∈ settings, Illegible environment setting := by
  induction first with
  | here illegible => exact ⟨_, List.mem_cons_self, illegible⟩
  | later _legible _first ih =>
      obtain ⟨setting, listed, illegible⟩ := ih
      exact ⟨setting, List.mem_cons_of_mem _ listed, illegible⟩

theorem FirstIllegible.unique {settings : List (String × (String → Prop))} {other : String}
    (first : FirstIllegible environment settings name)
    (second : FirstIllegible environment settings other) : name = other := by
  induction first with
  | here illegible =>
      cases second with
      | here _illegible => rfl
      | later legible _second => exact absurd illegible legible
  | later legible _first ih =>
      cases second with
      | here illegible => exact absurd illegible legible
      | later _legible second => exact ih second

/-- Each part of the configuration is settled by its own variable. -/
structure Reflects (environment : Environment) (configuration : Configuration) : Prop where
  databaseUrl : ∀ url, configuration.databaseUrl = some url ↔
    environment.Sets "DATABASE_URL" url ∧ url ≠ ""
  databaseMaxConnections : Settles environment "DATABASE_MAX_CONNECTIONS" (Fits 32) 10
    configuration.databaseMaxConnections
  host : Settles environment "HOST" Eq "127.0.0.1" configuration.host
  port : Settles environment "PORT" (Fits 16) 3000 configuration.port
  handlerTimeout : ∃ milliseconds,
    Settles environment "EVENT_HANDLER_TIMEOUT_MS" (Fits 64) 5000 milliseconds ∧
      configuration.handlerTimeout = if milliseconds = 0 then none else some ⟨milliseconds⟩
  strictWiring : Settles environment "EVENT_BUS_STRICT_WIRING" Says true configuration.strictWiring
  expectedEntries : Settles environment "EVENT_REGISTRY_EXPECTED_ENTRIES" (Present (Fits 64)) none
    configuration.expectedEntries
  jsonLogs : configuration.jsonLogs = true ↔ ∃ format, environment.Sets "LOG_FORMAT" format ∧
    Casing.fold format.toList = "json".toList
  environment : Settles environment "ENVIRONMENT" Eq "development" configuration.environment

theorem Reflects.legible {configuration : Configuration}
    (reflects : Reflects environment configuration) :
    ∀ setting ∈ checked, ¬Illegible environment setting := by
  obtain ⟨_milliseconds, timeout, _limit⟩ := reflects.handlerTimeout
  simp only [checked, List.forall_mem_cons]
  exact ⟨reflects.databaseMaxConnections.legible, reflects.port.legible, timeout.legible,
    reflects.strictWiring.legible, reflects.expectedEntries.legible_of_present,
    fun _ none => absurd none List.not_mem_nil⟩

theorem settles_getD (environment : Environment) (name default : String) :
    Settles environment name Eq default ((environment.get? name).getD default) := by
  cases found : environment.get? name with
  | none => exact Or.inl ⟨Environment.get?_eq_none_iff.mp found, rfl⟩
  | some text => exact Or.inr ⟨text, Environment.get?_eq_some_iff.mp found, rfl⟩

theorem alike_json_iff (format : String) :
    Casing.alike format.toList ['j', 's', 'o', 'n'] = true ↔
      Casing.fold format.toList = "json".toList := by
  have lower : Casing.fold ['j', 's', 'o', 'n'] = "json".toList := by decide
  rw [Casing.alike, lower, beq_iff_eq]

theorem flag_eq_true_iff (environment : Environment) :
    (match environment.get? "LOG_FORMAT" with
      | some format => Casing.alike format.toList ['j', 's', 'o', 'n']
      | none => false) = true ↔
      ∃ format, environment.Sets "LOG_FORMAT" format ∧
        Casing.fold format.toList = "json".toList := by
  simp only [← Environment.get?_eq_some_iff, ← alike_json_iff]
  cases environment.get? "LOG_FORMAT" <;> simp

/-- A result is the error of the first illegible variable, or a value of which something holds. -/
def Reads {β : Type} (environment : Environment) (settings : List (String × (String → Prop)))
    (result : Except ConfigurationError β) (Holds : β → Prop) : Prop :=
  (∃ name, FirstIllegible environment settings name ∧ result = .error (.invalidValue name)) ∨
    ∃ value, result = .ok value ∧ Holds value

theorem Reads.bind {β : Type} {setting : String × (String → Prop)}
    {rest : List (String × (String → Prop))} {result : Except ConfigurationError α}
    {next : α → Except ConfigurationError β} {Holds : α → Prop} {After : β → Prop}
    (first : Illegible environment setting ∧ result = .error (.invalidValue setting.1) ∨
      ∃ value, result = .ok value ∧ Holds value)
    (legible : ∀ value, Holds value → ¬Illegible environment setting)
    (later : ∀ value, Holds value → Reads environment rest (next value) After) :
    Reads environment (setting :: rest) (result >>= next) After := by
  rcases first with ⟨illegible, rfl⟩ | ⟨value, rfl, holds⟩
  · exact Or.inl ⟨setting.1, .here illegible, rfl⟩
  · rcases later value holds with ⟨name, found, failed⟩ | ⟨final, found, after⟩
    · exact Or.inl ⟨name, .later (legible value holds) found, failed⟩
    · exact Or.inr ⟨final, found, after⟩

theorem ofEnvironment_reads (environment : Environment) :
    Reads environment checked (ofEnvironment environment) (Reflects environment) := by
  unfold ofEnvironment
  refine Reads.bind (withDefault_cases (bounded?_eq_some_iff_fits rfl) 10)
    (fun _ settles => settles.legible) fun connections settlesConnections => ?_
  refine Reads.bind (withDefault_cases (bounded?_eq_some_iff_fits rfl) 3000)
    (fun _ settles => settles.legible) fun port settlesPort => ?_
  refine Reads.bind (withDefault_cases (bounded?_eq_some_iff_fits rfl) _)
    (fun _ settles => settles.legible) fun milliseconds settlesTimeout => ?_
  refine Reads.bind (withDefault_cases switch?_eq_some_iff true)
    (fun _ settles => settles.legible) fun strict settlesStrict => ?_
  refine Reads.bind (optional_cases (bounded?_eq_some_iff_fits rfl))
    (fun _ settles => settles.legible_of_present) fun expected settlesExpected => ?_
  refine Or.inr ⟨_, rfl, ?_⟩
  exact
    { databaseUrl := fun url => by
        simp only [Option.filter_eq_some_iff, Environment.get?_eq_some_iff, Bool.not_eq_true',
          String.isEmpty_eq_false_iff]
      databaseMaxConnections := settlesConnections
      host := settles_getD environment "HOST" "127.0.0.1"
      port := settlesPort
      handlerTimeout := ⟨milliseconds, settlesTimeout, rfl⟩
      strictWiring := settlesStrict
      expectedEntries := settlesExpected
      jsonLogs := flag_eq_true_iff environment
      environment := settles_getD environment "ENVIRONMENT" "development" }

theorem Present.unique
    (functional : ∀ text left right, Means text left → Means text right → left = right)
    (text : String) (left right : Option α) (isLeft : Present Means text left)
    (isRight : Present Means text right) : left = right := by
  obtain ⟨meantLeft, meansLeft, rfl⟩ := isLeft
  obtain ⟨meantRight, meansRight, rfl⟩ := isRight
  rw [functional text meantLeft meantRight meansLeft meansRight]

theorem Reflects.unique {left right : Configuration} (isLeft : Reflects environment left)
    (isRight : Reflects environment right) : left = right := by
  have texts (text first second : String) (isFirst : text = first) (isSecond : text = second) :
      first = second := isFirst.symm.trans isSecond
  obtain ⟨millisecondsLeft, timeoutLeft, limitLeft⟩ := isLeft.handlerTimeout
  obtain ⟨millisecondsRight, timeoutRight, limitRight⟩ := isRight.handlerTimeout
  have timeout : left.handlerTimeout = right.handlerTimeout := by
    rw [limitLeft, limitRight, timeoutLeft.unique Fits.unique timeoutRight]
  have url : left.databaseUrl = right.databaseUrl :=
    Option.ext fun url => (isLeft.databaseUrl url).trans (isRight.databaseUrl url).symm
  have connections := isLeft.databaseMaxConnections.unique Fits.unique
    isRight.databaseMaxConnections
  have host := isLeft.host.unique texts isRight.host
  have port := isLeft.port.unique Fits.unique isRight.port
  have name := isLeft.environment.unique texts isRight.environment
  have strict := isLeft.strictWiring.unique Says.unique isRight.strictWiring
  have expected :=
    isLeft.expectedEntries.unique (Present.unique Fits.unique) isRight.expectedEntries
  have logs : left.jsonLogs = right.jsonLogs :=
    Bool.eq_iff_iff.mpr (isLeft.jsonLogs.trans isRight.jsonLogs.symm)
  cases left
  cases right
  rw [Configuration.mk.injEq]
  exact ⟨url, connections, host, port, name, timeout, strict, expected, logs⟩

/-- Reading the configuration is exact, whatever the environment is.  It fails exactly if one of
the checked variables is illegible, and the error names the first of these.  Otherwise the
configuration is the one that reflects the environment, each part its own variable, and the
settings of the bus take over the time limit, the strictness and the expected count. -/
theorem ofEnvironment_exact (environment : Environment) :
    ((∃ error, ofEnvironment environment = .error error) ↔
        ∃ setting ∈ checked, Illegible environment setting) ∧
      (∀ error, ofEnvironment environment = .error error ↔
        ∃ name, FirstIllegible environment checked name ∧ error = .invalidValue name) ∧
      (∀ configuration, ofEnvironment environment = .ok configuration ↔
        Reflects environment configuration) ∧
      ∀ configuration : Configuration, configuration.busSettings =
        { handlerTimeout := configuration.handlerTimeout
          strictWiring := configuration.strictWiring
          expectedEntries := configuration.expectedEntries } := by
  rcases ofEnvironment_reads environment with ⟨name, first, failed⟩ | ⟨settled, found, reflects⟩
  · rw [failed]
    refine ⟨iff_of_true ⟨_, rfl⟩ first.exists, fun error => ?_, fun configuration => ?_,
      fun _ => rfl⟩
    · constructor
      · rintro ⟨⟩
        exact ⟨name, first, rfl⟩
      · rintro ⟨other, second, rfl⟩
        rw [first.unique second]
    · refine iff_of_false nofun fun reflects => ?_
      obtain ⟨setting, listed, illegible⟩ := first.exists
      exact reflects.legible setting listed illegible
  · rw [found]
    have legible := reflects.legible
    refine ⟨?_, fun error => ?_, fun configuration => ?_, fun _ => rfl⟩
    · exact iff_of_false nofun fun ⟨setting, listed, illegible⟩ => legible setting listed illegible
    · refine iff_of_false nofun fun ⟨_name, first, _same⟩ => ?_
      obtain ⟨setting, listed, illegible⟩ := first.exists
      exact legible setting listed illegible
    · constructor
      · rintro ⟨⟩
        exact reflects
      · intro other
        rw [reflects.unique other]

end Configuration
end WorkflowBus
