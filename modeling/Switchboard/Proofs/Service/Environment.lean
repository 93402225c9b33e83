import Switchboard.Proofs.Decimal.Numerals
import Switchboard.Proofs.Text.Trimming
import Switchboard.Service.Settings

/-!
# Rules from the environment

The rules of turns are given by variables, and where a variable gives none that can be used the
usual rule holds. There is one exception: a number of hours that can be read, but whose seconds
cannot be counted, is no rule and ends the start of the service (`rules_unless_overflow`).
-/

namespace Switchboard.Service

-- ---------------------------------------------------------------------------
-- Variables
-- ---------------------------------------------------------------------------

namespace Env

/-- What a variable is set to, without the blanks around it. -/
def Holds (env : Env) (name : String) (cs : List Char) : Prop :=
  ∃ value, env name = some value ∧ Text.IsCore value.toList cs

/-- The variable is set to a number of sixty-four bits. -/
def GivesNat (env : Env) (name : String) (n : Nat) : Prop :=
  ∃ cs, env.Holds name cs ∧ Decimal.WritesNat cs n ∧ n < UInt64.size

def GivesInt (env : Env) (name : String) (i : Int) : Prop :=
  ∃ cs, env.Holds name cs ∧ Decimal.WritesInt cs i

/-- The hours can be read, but their seconds cannot be counted in sixty-four bits. -/
def Overflows (env : Env) : Prop :=
  ∃ n, env.GivesInt "BOT_STALENESS_HOURS" n ∧ inInt64 n = true ∧ inInt64 (n * 3600) = false

variable {env : Env} {name : String}

theorem bind_trim_eq_some_iff {α : Type} {read : String → Option α} {x : α} :
    ((env name).map Text.trim).bind read = some x ↔
      ∃ cs, env.Holds name cs ∧ read (String.ofList cs) = some x := by
  constructor
  · intro h
    obtain ⟨s, hs, hread⟩ := Option.bind_eq_some_iff.1 h
    obtain ⟨value, hvalue, rfl⟩ := Option.map_eq_some_iff.1 hs
    exact ⟨Text.trimChars value.toList, ⟨value, hvalue, Text.isCore_trimChars _⟩, hread⟩
  · rintro ⟨cs, ⟨value, hvalue, hcore⟩, hread⟩
    rw [hcore.eq_trimChars] at hread
    rw [hvalue]
    exact hread

theorem readNat?_eq_some_iff {n : Nat} :
    ((env name).map Text.trim).bind (Decimal.readNat? UInt64.size) = some n ↔
      env.GivesNat name n := by
  rw [bind_trim_eq_some_iff]
  simp only [Decimal.readNat?_eq_some_iff, String.toList_ofList]
  rfl

theorem readInt64?_eq_some_iff {i : Int} :
    ((env name).map Text.trim).bind Decimal.readInt64? = some i ↔
      env.GivesInt name i ∧ inInt64 i = true := by
  rw [bind_trim_eq_some_iff]
  simp only [Decimal.readInt64?_eq_some_iff, String.toList_ofList, ← and_assoc, exists_and_right]
  rfl

end Env

-- ---------------------------------------------------------------------------
-- Rules
-- ---------------------------------------------------------------------------

/-- What is given, or the usual if nothing is. -/
inductive GivenOr {α : Type} (gives : α → Prop) (usual : α) : α → Prop
  | given {x : α} (h : gives x) : GivenOr gives usual x
  | usual (h : ∀ x, ¬ gives x) : GivenOr gives usual usual

theorem givenOr_getD {α : Type} {gives : α → Prop} {o : Option α} (h : ∀ x, o = some x ↔ gives x)
    (usual : α) : GivenOr gives usual (o.getD usual) := by
  cases o with
  | none => exact .usual fun x hx => nomatch (h x).2 hx
  | some x => exact .given ((h x).1 rfl)

def hour : Span := 3600 * 1000 * millisecond

/-- Rules as the variables set them: those that can be used count, and the usual rules otherwise. -/
structure Env.Sets (env : Env) (rules : TurnRules) : Prop where
  staleness : GivenOr (fun span => ∃ n, env.GivesInt "BOT_STALENESS_HOURS" n ∧
    inInt64 (n * 3600) = true ∧ n * hour = span) (24 * hour) rules.staleness
  maxSteps : GivenOr (env.GivesNat "BOT_MAX_STEPS") 15 rules.maxSteps
  settle : GivenOr (fun span => ∃ n, env.GivesNat "BOT_SETTLE_MS" n ∧ n * millisecond = span)
    (500 * millisecond) rules.settle

theorem inInt64_of_seconds {n : Int} (h : inInt64 (n * 3600) = true) : inInt64 n = true := by
  simp only [inInt64, decide_eq_true_eq] at h ⊢
  omega

theorem hours_of_inInt64 {n : Int} (h : inInt64 (n * 3600) = true) : hours n = .ok (n * hour) := by
  rw [hours, if_pos h, hour, ← Int.mul_assoc, ← Int.mul_assoc]

namespace Env

variable {env : Env}

theorem overflows_iff : env.Overflows ↔
    ∃ n, ((env "BOT_STALENESS_HOURS").map Text.trim).bind Decimal.readInt64? = some n ∧
      inInt64 (n * 3600) = false := by
  simp only [Overflows, readInt64?_eq_some_iff, and_assoc]

theorem rulesFrom_of_overflows (h : env.Overflows) : rulesFrom env = .error .hoursOverflow := by
  obtain ⟨n, hread, hover⟩ := overflows_iff.1 h
  have hhours : hours n = .error .hoursOverflow := by
    rw [hours, hover]
    rfl
  unfold rulesFrom
  simp only [hread, hhours]
  rfl

/-- Hours that can be counted are taken, and without hours the usual age is. -/
theorem staleness_of_not_overflows (h : ¬ env.Overflows) :
    ∃ span, (match ((env "BOT_STALENESS_HOURS").map Text.trim).bind Decimal.readInt64? with
      | some n => hours n
      | none => .ok TurnRules.standard.staleness) = .ok span ∧
      GivenOr (fun span => ∃ n, env.GivesInt "BOT_STALENESS_HOURS" n ∧
        inInt64 (n * 3600) = true ∧ n * hour = span) (24 * hour) span := by
  cases hread : ((env "BOT_STALENESS_HOURS").map Text.trim).bind Decimal.readInt64? with
  | none =>
    refine ⟨_, rfl, .usual ?_⟩
    rintro _ ⟨n, hgives, hseconds, -⟩
    have hsome := readInt64?_eq_some_iff.2 ⟨hgives, inInt64_of_seconds hseconds⟩
    rw [hread] at hsome
    cases hsome
  | some n =>
    have hseconds : inInt64 (n * 3600) = true := by
      by_contra hover
      exact h (overflows_iff.2 ⟨n, hread, Bool.eq_false_iff.2 hover⟩)
    exact ⟨_, hours_of_inInt64 hseconds,
      .given ⟨n, (readInt64?_eq_some_iff.1 hread).1, hseconds, rfl⟩⟩

/-- The settle time is a number of milliseconds. -/
theorem settle_eq_some_iff {span : Span} :
    (((env "BOT_SETTLE_MS").map Text.trim).bind (Decimal.readNat? UInt64.size)).map
        (fun ms => (ms : Int) * millisecond) = some span ↔
      ∃ n, env.GivesNat "BOT_SETTLE_MS" n ∧ n * millisecond = span := by
  simp only [bind_pure_comp, Option.map_eq_map, Option.map_map, Option.map_eq_some_iff,
    readNat?_eq_some_iff, Function.comp_apply]

theorem rulesFrom_of_not_overflows (h : ¬ env.Overflows) :
    ∃ rules, rulesFrom env = .ok rules ∧ env.Sets rules := by
  obtain ⟨span, hspan, hgiven⟩ := staleness_of_not_overflows h
  refine ⟨⟨span, _, _⟩, ?_, hgiven, givenOr_getD (fun _ => readNat?_eq_some_iff) _,
    givenOr_getD (fun _ => settle_eq_some_iff) _⟩
  unfold rulesFrom
  cases hread : ((env "BOT_STALENESS_HOURS").map Text.trim).bind Decimal.readInt64? with
  | none =>
    rw [hread] at hspan
    cases hspan
    simp only [hread]
    rfl
  | some n =>
    have hhours : hours n = .ok span := by
      rw [hread] at hspan
      exact hspan
    simp only [hread, hhours]
    rfl

/-- Whether the address is valid is looked at first, and then the rules of turns are read. -/
theorem complete_of_valid {address : SocketAddress}
    (h : SocketAddress.read? ((env.given "BIND").getD defaultBind) = some address) :
    (∀ e, rulesFrom env = .error e → Settings.complete env = .error e) ∧
      ∀ rules, rulesFrom env = .ok rules → ∃ settings, Settings.complete env = .ok settings ∧
        settings.address = address ∧ settings.rules = rules := by
  obtain ⟨settings, hsettings, hbound⟩ :
      ∃ settings, Settings.ofEnv env = .ok settings ∧ settings.address = address := by
    unfold Settings.ofEnv
    simp only [h]
    exact ⟨_, rfl, rfl⟩
  unfold Settings.complete
  rw [hsettings]
  constructor
  · intro e he
    rw [he]
    rfl
  · intro rules hrules
    rw [hrules]
    exact ⟨_, rfl, hbound, rfl⟩

end Env

/-- Whatever the environment, the rules of turns are those that its variables set, unless the hours
overflow; then, and only then, there are none. The service with a valid address takes the same
rules, and does not start without them. -/
theorem rules_unless_overflow (env : Env) :
    (env.Overflows → rulesFrom env = .error .hoursOverflow) ∧
    (¬ env.Overflows → ∃ rules, rulesFrom env = .ok rules ∧ env.Sets rules) ∧
    ∀ address, SocketAddress.read? ((env.given "BIND").getD defaultBind) = some address →
      (env.Overflows → Settings.complete env = .error .hoursOverflow) ∧
      (¬ env.Overflows → ∃ settings, Settings.complete env = .ok settings ∧
        settings.address = address ∧ env.Sets settings.rules) := by
  refine ⟨Env.rulesFrom_of_overflows, Env.rulesFrom_of_not_overflows, fun address haddress => ?_⟩
  obtain ⟨hfails, htakes⟩ := Env.complete_of_valid haddress
  refine ⟨fun h => hfails _ (Env.rulesFrom_of_overflows h), fun h => ?_⟩
  obtain ⟨rules, hrules, hsets⟩ := Env.rulesFrom_of_not_overflows h
  obtain ⟨settings, hsettings, hbound, htaken⟩ := htakes rules hrules
  exact ⟨settings, hsettings, hbound, htaken ▸ hsets⟩

/-- The greatest number of hours that can be counted, a number of steps with a sign, and a settle
time of more than sixty-four bits. -/
def patientEnv : Env
  | "BOT_STALENESS_HOURS" => some " 2562047788015215\n"
  | "BOT_MAX_STEPS" => some "+7"
  | "BOT_SETTLE_MS" => some "18446744073709551616"
  | _ => none

/-- The settle time is the usual one. -/
theorem rules_unless_overflow_patient :
    ¬ patientEnv.Overflows ∧
      SocketAddress.read? ((patientEnv.given "BIND").getD defaultBind) =
        some (.four [0, 0, 0, 0] 8080) ∧
      ∃ settings, Settings.complete patientEnv = .ok settings ∧ patientEnv.Sets settings.rules ∧
        settings.rules = ⟨2562047788015215 * hour, 7, 500 * millisecond⟩ := by
  have hread : ((patientEnv "BOT_STALENESS_HOURS").map Text.trim).bind Decimal.readInt64? =
      some 2562047788015215 := by decide +kernel
  have hcounted : ¬ patientEnv.Overflows := by
    rw [Env.overflows_iff, hread]
    rintro ⟨n, hn, hover⟩
    cases hn
    revert hover
    decide
  have haddress : SocketAddress.read? ((patientEnv.given "BIND").getD defaultBind) =
      some (.four [0, 0, 0, 0] 8080) := by decide +kernel
  have hrules : rulesFrom patientEnv =
      .ok ⟨2562047788015215 * hour, 7, 500 * millisecond⟩ := by decide +kernel
  obtain ⟨settings, hsettings, -, hsets⟩ :=
    ((rules_unless_overflow patientEnv).2.2 _ haddress).2 hcounted
  obtain ⟨taken, htaken, -, heq⟩ := (Env.complete_of_valid haddress).2 _ hrules
  obtain rfl : settings = taken := Except.ok.inj (hsettings.symm.trans htaken)
  exact ⟨hcounted, haddress, settings, hsettings, hsets, heq⟩

/-- One hour more than can be counted. -/
def impatientEnv : Env
  | "BOT_STALENESS_HOURS" => some "2562047788015216"
  | _ => none

/-- With a number of hours whose seconds cannot be counted there are no rules, neither these nor the
usual ones, and the service does not start, although its address is valid. -/
theorem no_rules_beyond_count :
    (∃ n, impatientEnv.GivesInt "BOT_STALENESS_HOURS" n ∧ inInt64 (n * 3600) = false) ∧
      (SocketAddress.read? ((impatientEnv.given "BIND").getD defaultBind)).isSome ∧
      (¬ ∃ rules, rulesFrom impatientEnv = .ok rules) ∧
      (¬ ∃ settings, Settings.complete impatientEnv = .ok settings) ∧
      rulesFrom impatientEnv = .error .hoursOverflow ∧
      Settings.complete impatientEnv = .error .hoursOverflow := by
  have hread : ((impatientEnv "BOT_STALENESS_HOURS").map Text.trim).bind Decimal.readInt64? =
      some 2562047788015216 := by decide +kernel
  have hrules : rulesFrom impatientEnv = .error .hoursOverflow := by decide +kernel
  have hcomplete : Settings.complete impatientEnv = .error .hoursOverflow := by decide +kernel
  refine ⟨⟨_, (Env.readInt64?_eq_some_iff.1 hread).1, by decide⟩, by decide +kernel, ?_, ?_, hrules,
    hcomplete⟩
  · rintro ⟨rules, hok⟩
    rw [hrules] at hok
    cases hok
  · rintro ⟨settings, hok⟩
    rw [hcomplete] at hok
    cases hok

end Switchboard.Service
