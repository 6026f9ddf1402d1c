import Mathlib.Data.List.Nodup
import Mathlib.Data.Rat.Floor
import TopicListeners.Proofs.Container.Installing
import TopicListeners.Proofs.Duration.Reading
import TopicListeners.Proofs.Settings.Outcome

/-!
# Durations that containers hold

A duration starts as the text of a variable and ends as a whole number in the settings of a
container. Nothing is lost on the way but what is below a millisecond, or below a second for the
interval between checks, and what there is no room for.

* `whole_eq_floored`: the stored number is the floor of the duration, up to the largest one.
* `stored_install`: each duration is stored under its own setting.
* `durations_stored`: **every text that is taken for a duration is stored exactly**, and longer
  durations are not stored as smaller numbers.
-/

namespace TopicListeners

/-- The settings that are durations. -/
inductive TimeSetting
  | ackTime
  | pollTimeout
  | idleBetweenPolls
  | idleEventInterval
  | idlePartitionEventInterval
  | monitorInterval
deriving DecidableEq, Repr

namespace TimeSetting

/-! ## The way of a duration -/

/-- The name of the variable that says how long a duration is. -/
def variableName : TimeSetting → String
  | ackTime => "KAFKA_LISTENER_ACK_TIME"
  | pollTimeout => "KAFKA_LISTENER_POLL_TIMEOUT"
  | idleBetweenPolls => "KAFKA_LISTENER_IDLE_BETWEEN_POLLS"
  | idleEventInterval => "KAFKA_LISTENER_IDLE_EVENT_INTERVAL"
  | idlePartitionEventInterval => "KAFKA_LISTENER_IDLE_PARTITION_EVENT_INTERVAL"
  | monitorInterval => "KAFKA_LISTENER_MONITOR_INTERVAL"

/-- The unit of a number without one. -/
def bareUnit : TimeSetting → TimeUnit
  | monitorInterval => .second
  | _ => .millisecond

/-- The variable of a duration. -/
def toVariable (x : TimeSetting) : Variable := .of x.variableName (Duration.read? x.bareUnit)

/-- The duration that listener settings have. -/
def duration (s : ListenerSettings) : TimeSetting → Option Duration
  | ackTime => s.ackTime
  | pollTimeout => s.pollTimeout
  | idleBetweenPolls => some s.idleBetweenPolls
  | idleEventInterval => s.idleEventInterval
  | idlePartitionEventInterval => s.idlePartitionEventInterval
  | monitorInterval => s.monitorInterval

/-- The whole number that is made of a duration. -/
def whole (d : Duration) : TimeSetting → Int
  | monitorInterval => d.wholeSeconds.toInt
  | _ => d.millis.toNat

/-- The whole number that the settings of a container hold. -/
def stored {σ : Type} (s : ContainerSettings σ) : TimeSetting → Option Int
  | ackTime => some s.ackTime.toNat
  | pollTimeout => some s.pollTimeout.toNat
  | idleBetweenPolls => some s.idleBetweenPolls.toNat
  | idleEventInterval => s.idleEventInterval.map fun n => n.toNat
  | idlePartitionEventInterval => s.idlePartitionEventInterval.map fun n => n.toNat
  | monitorInterval => some s.monitorInterval.toInt

/-! ## What is to be stored -/

/-- **The duration that a text denotes**, in seconds: so many units of so many nanoseconds. -/
def Denotes (x : TimeSetting) (text : String) (seconds : ℚ) : Prop :=
  ∃ n unit, Duration.Written x.bareUnit.nanoseconds text.toList n unit ∧
    seconds = n * unit / 1000000000

/-- How many of the units in which a duration is stored make a second. -/
def perSecond : TimeSetting → Nat
  | monitorInterval => 1
  | _ => 1000

/-- The largest number that there is room for. -/
def most : TimeSetting → Nat
  | monitorInterval => 0x7FFFFFFF
  | _ => 0xFFFFFFFFFFFFFFFF

/-- The whole units in a number of seconds, up to the largest number that there is room for. -/
def floored (x : TimeSetting) (seconds : ℚ) : Int := min ⌊seconds * x.perSecond⌋ x.most

/-- A text for a duration ends up as `z`: an environment that has this text for it loads, unless some
other variable cannot be read, and its settings store `z` in whatever they are installed, with any
collaborators. -/
def Stores (x : TimeSetting) (text : String) (z : Int) : Prop :=
  ∀ env : Environment, env x.variableName = some text →
    (∀ v ∈ ListenerSettings.variableList, v.name ≠ x.variableName → v.accepts env) →
    ∃ s, ListenerSettings.loader.run env = .ok s ∧
      ∀ (σ : Type) (cs : List (Supply σ)) (provider : ConsumerProvider σ) (b : Blueprint σ),
        x.stored (((Wiring.ofSettings s).supplyAll cs).install provider b).1.container = some z

/-! ## From text to number -/

variable (x : TimeSetting) {text : String} {d : Duration}

theorem toVariable_mem : x.toVariable ∈ ListenerSettings.variableList := by
  cases x <;> simp [toVariable, variableName, bareUnit, ListenerSettings.variableList,
    ListenerSettings.readMillis?, ListenerSettings.readSeconds?]

/-- A text that is read denotes what it is read as, and nothing else. -/
theorem denotes_iff (h : Duration.read? x.bareUnit text = some d) (seconds : ℚ) :
    x.Denotes text seconds ↔ seconds = d.nanoseconds / 1000000000 := by
  obtain ⟨n, unit, hwritten, -, rfl⟩ := Duration.read?_eq_some_iff.1 h
  constructor
  · rintro ⟨n', unit', hwritten', rfl⟩
    obtain ⟨rfl, rfl⟩ := hwritten'.unique hwritten
    rw [Nat.cast_mul]
  · rintro rfl
    exact ⟨n, unit, hwritten, by rw [Nat.cast_mul]⟩

/-- Nanoseconds in units of which `perSecond` make a second. -/
theorem floor_units (n perSecond unit : ℕ) (h : perSecond * unit = 1000000000) :
    ⌊(n / 1000000000 * perSecond : ℚ)⌋ = (n / unit : ℕ) := by
  have hsecond : (1000000000 : ℚ) = perSecond * unit := by exact_mod_cast h.symm
  have hper : (perSecond : ℚ) ≠ 0 := by
    intro h₀
    rw [h₀, zero_mul] at hsecond
    norm_num at hsecond
  have hscale : (n / 1000000000 * perSecond : ℚ) = n / unit := by
    rw [hsecond, div_mul_eq_mul_div, mul_comm (n : ℚ), mul_div_mul_left _ _ hper]
  rw [hscale, Rat.floor_natCast_div_natCast]
  norm_cast

/-- **The stored number is the floor of the duration**, up to the largest number. -/
theorem whole_eq_floored (d : Duration) : x.whole d = x.floored (d.nanoseconds / 1000000000) := by
  -- all settings but one are stored in milliseconds
  have hmillis : x.perSecond = 1000 → x.most = 0xFFFFFFFFFFFFFFFF →
      (d.millis.toNat : Int) = x.floored (d.nanoseconds / 1000000000) := by
    intro hper hmost
    rw [floored, hper, hmost, floor_units _ _ 1000000 rfl, Duration.toNat_millis,
      Numeral.maxWord64]
    omega
  cases x with
  | monitorInterval =>
    rw [floored, perSecond, most, floor_units _ _ 1000000000 rfl, whole,
      Duration.toInt_wholeSeconds, Duration.seconds, Duration.maxSeconds]
    omega
  | _ => exact hmillis rfl rfl

theorem floored_nonneg {seconds : ℚ} (h : 0 ≤ seconds) : 0 ≤ x.floored seconds := by
  have hfloor : 0 ≤ ⌊seconds * x.perSecond⌋ :=
    Int.floor_nonneg.2 (mul_nonneg h (Nat.cast_nonneg _))
  exact le_min hfloor (Int.natCast_nonneg _)

theorem floored_mono {a b : ℚ} (h : a ≤ b) : x.floored a ≤ x.floored b := by
  have hfloor : ⌊a * x.perSecond⌋ ≤ ⌊b * x.perSecond⌋ :=
    Int.floor_le_floor (mul_le_mul_of_nonneg_right h (Nat.cast_nonneg _))
  exact min_le_min_right _ hfloor

/-! ## From settings to containers -/

/-- **Each duration is stored under its own setting**, if it is there. -/
theorem stored_install {σ : Type} (w : Wiring σ) (provider : ConsumerProvider σ)
    (b : Blueprint σ) : x.stored (w.install provider b).1.container =
      ((x.duration w.settings).map fun d => x.whole d).or (x.stored b.container) := by
  have hget (p : ContainerPart) := w.get_install provider b (.container p)
  have hwhole {α : Type} (o : Option Duration) (f : Duration → α) (g : α → Int) {u v : Option α}
      (h : v = (o.map f).or u) : v.map g = (o.map fun d => g (f d)).or (u.map g) := by
    rw [h, Option.map_or, Option.map_map]
    rfl
  have hmillis (o : Option Duration) {u v : Option UInt64} (h : v = (o.map Duration.millis).or u) :=
    hwhole o Duration.millis (fun n => (n.toNat : Int)) h
  cases x with
  | ackTime => exact hmillis _ (hget .ackTime)
  | pollTimeout => exact hmillis _ (hget .pollTimeout)
  | idleBetweenPolls => exact hmillis (some _) (hget .idleBetweenPolls)
  | idleEventInterval => exact hmillis _ (hget .idleEventInterval)
  | idlePartitionEventInterval => exact hmillis _ (hget .idlePartitionEventInterval)
  | monitorInterval => exact hwhole _ Duration.wholeSeconds Int32.toInt (hget .monitorInterval)

theorem settings_supplyAll {σ : Type} (w : Wiring σ) (cs : List (Supply σ)) :
    (w.supplyAll cs).settings = w.settings := by
  induction cs generalizing w with
  | nil => rfl
  | cons c cs ih =>
    refine (ih (w.supply c)).trans ?_
    cases c <;> rfl

/-- A text that is read is what the settings of its environment have. -/
theorem duration_denoted {env : Environment} (htext : env x.variableName = some text)
    (hd : Duration.read? x.bareUnit text = some d) :
    x.duration (ListenerSettings.denoted env) = some d := by
  have hvalue : env.value x.variableName (Duration.read? x.bareUnit) = some d := by
    rw [Environment.value, htext]
    exact hd
  cases x with
  | idleBetweenPolls =>
    -- the one duration that has a default
    exact congrArg (fun o : Option Duration => some (o.getD .zero)) hvalue
  | _ => exact hvalue

/-- **A text that is read ends up as its duration in whole units.** -/
theorem stores_whole (hd : Duration.read? x.bareUnit text = some d) :
    x.Stores text (x.whole d) := by
  intro env htext hothers
  have hself : x.toVariable.accepts env := by
    simp [Variable.accepts, toVariable, Variable.of, htext, hd]
  have haccepts := ListenerSettings.accepts_of_others x.toVariable_mem hself hothers
  refine ⟨.denoted env, ListenerSettings.loader_gives.ok_iff.2 ⟨haccepts, rfl⟩, ?_⟩
  intro σ cs provider b
  have hsettings : ((Wiring.ofSettings (.denoted env)).supplyAll cs).settings = .denoted env :=
    settings_supplyAll _ cs
  rw [x.stored_install, hsettings, x.duration_denoted htext hd]
  rfl

/-- **A text that a variable takes ends up as the duration that it denotes**, in whole units. -/
theorem stores_floored (h : x.toVariable.readable text) {seconds : ℚ}
    (hseconds : x.Denotes text seconds) : x.Stores text (x.floored seconds) := by
  obtain ⟨d, hd⟩ := Option.isSome_iff_exists.1 h
  obtain rfl := (x.denotes_iff hd seconds).1 hseconds
  rw [← x.whole_eq_floored]
  exact x.stores_whole hd

theorem floored_eq {x y : TimeSetting} (h : x.perSecond = y.perSecond) (seconds : ℚ) :
    x.floored seconds = y.floored seconds := by
  have hmost : x.most = y.most := by
    revert h
    cases x <;> cases y <;> decide
  rw [floored, floored, h, hmost]

end TimeSetting

namespace ListenerSettings

/-- **Durations reach containers as exact numbers.** A text that one of the variables takes denotes
one duration, and that is stored in whole units of its setting, as the largest number if it is too
long for any other. So among settings with the same unit longer durations are not stored as smaller
numbers, nor equal ones as different numbers, however they are written. -/
theorem durations_stored :
    (∀ (x : TimeSetting) (text : String), x.toVariable.readable text →
      ∃ seconds : ℚ, (∀ q, x.Denotes text q ↔ q = seconds) ∧
        x.Stores text (min ⌊seconds * x.perSecond⌋ x.most) ∧
        0 ≤ min ⌊seconds * x.perSecond⌋ (x.most : ℤ)) ∧
    ∀ (x y : TimeSetting) (text other : String) (p q : ℚ), x.perSecond = y.perSecond →
      x.toVariable.readable text → y.toVariable.readable other →
      x.Denotes text p → y.Denotes other q → p ≤ q →
      ∃ m n, x.Stores text m ∧ y.Stores other n ∧ m ≤ n ∧ (p = q → m = n) := by
  constructor
  · intro x text h
    obtain ⟨d, hd⟩ := Option.isSome_iff_exists.1 h
    have hdenotes := x.denotes_iff hd
    have hnonneg : (0 : ℚ) ≤ d.nanoseconds / 1000000000 := by positivity
    exact ⟨_, hdenotes, x.stores_floored h ((hdenotes _).2 rfl), x.floored_nonneg hnonneg⟩
  · intro x y text other p q hunit hx hy hp hq hle
    refine ⟨x.floored p, y.floored q, x.stores_floored hx hp, y.stores_floored hy hq, ?_, ?_⟩
    · rw [TimeSetting.floored_eq hunit]
      exact y.floored_mono hle
    · rintro rfl
      exact TimeSetting.floored_eq hunit p

/-- Thirty thousand days are more seconds than can be stored, and of two milliseconds less a
microsecond only one is left. -/
theorem durations_stored_capped :
    TimeSetting.monitorInterval.Stores "30000d" 2147483647 ∧
      TimeSetting.ackTime.Stores "1999us" 1 ∧
      ∃ m n, TimeSetting.ackTime.Stores "1999us" m ∧ TimeSetting.pollTimeout.Stores " 2 MS" n ∧
        m ≤ n := by
  have hdays : TimeSetting.monitorInterval.Denotes "30000d" 2592000000 :=
    ⟨30000, 86400 * 1000000000,
      @Duration.Written.mk _ [] ['3', '0', '0', '0', '0'] [] ['d'] [] _ (by decide) (by decide)
        (List.all_eq_true.1 (by decide)) (by decide) (.inr (by decide)) (by decide), by norm_num⟩
  have hmicros : TimeSetting.ackTime.Denotes "1999us" (1999 / 1000000) :=
    ⟨1999, 1000,
      @Duration.Written.mk _ [] ['1', '9', '9', '9'] [] ['u', 's'] [] _ (by decide) (by decide)
        (List.all_eq_true.1 (by decide)) (by decide) (.inr (by decide)) (by decide), by norm_num⟩
  have hmillis : TimeSetting.pollTimeout.Denotes " 2 MS" (2 / 1000) :=
    ⟨2, 1000000,
      @Duration.Written.mk _ [' '] ['2'] [' '] ['M', 'S'] [] _ (by decide) (by decide)
        (List.all_eq_true.1 (by decide)) (by decide) (.inr (by decide)) (by decide), by norm_num⟩
  obtain ⟨days, hdays', hcapped, -⟩ := durations_stored.1 .monitorInterval "30000d" (by decide)
  obtain ⟨micros, hmicros', hfloored, -⟩ := durations_stored.1 .ackTime "1999us" (by decide)
  obtain rfl := (hdays' _).1 hdays
  obtain rfl := (hmicros' _).1 hmicros
  refine ⟨?_, ?_, ?_⟩
  · norm_num [TimeSetting.perSecond, TimeSetting.most] at hcapped
    exact hcapped
  · norm_num [TimeSetting.perSecond, TimeSetting.most] at hfloored
    exact hfloored
  · obtain ⟨m, n, hm, hn, hle, -⟩ := durations_stored.2 .ackTime .pollTimeout "1999us" " 2 MS" _ _
      rfl (by decide) (by decide) hmicros hmillis (by norm_num)
    exact ⟨m, n, hm, hn, hle⟩

end ListenerSettings

end TopicListeners
