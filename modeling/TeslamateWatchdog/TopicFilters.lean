/-
The topic filters derived from `TESLAMATE_HEALTH_TOPIC`, against what the broker
delivers for them.  Deriving drops empty levels and matching does not; and the
callback counts a heartbeat by the end of its topic, whatever the filter was.
-/
import TeslamateWatchdog.Foundation.TopicFilter
import TeslamateWatchdog.HeartbeatTraces

namespace TeslamateWatchdog

open Foundation

namespace TopicLayout

/-- The shape that `derive` recognises. -/
def Recognised (healthTopic : String) : Prop :=
  3 ≤ (segments healthTopic).length ∧
    (segments healthTopic).getLast? = some "healthy"

instance (healthTopic : String) : Decidable (Recognised healthTopic) :=
  inferInstanceAs (Decidable (_ ∧ _))

/-- The topic with another last level. -/
def withLastLevel (topic last : String) : String :=
  "/".intercalate ((Topic.levels topic).dropLast ++ [last])

theorem segments_eq (topic : String) :
    segments topic = (Topic.levels topic).filter (· ≠ "") := rfl

/-- A recognised topic, taken apart: what stands before the car, the car, and
the filters made of these. -/
theorem derive_of_recognised {healthTopic : String}
    (hrecognised : Recognised healthTopic) :
    ∃ root car, root ≠ [] ∧ segments healthTopic = root ++ [car, "healthy"] ∧
      derive healthTopic =
        ⟨"/".intercalate (root ++ ["+", "healthy"]),
          some ("/".intercalate (root ++ ["+", "state"])), some car⟩ := by
  obtain ⟨hlength, hlast⟩ := hrecognised
  obtain ⟨front, hfront⟩ := List.getLast?_eq_some_iff.mp hlast
  rw [hfront, List.length_append, List.length_singleton] at hlength
  obtain ⟨root, car, rfl⟩ : ∃ root car, front = root ++ [car] := by
    rcases List.eq_nil_or_concat front with rfl | ⟨root, car, rfl⟩
    · simp at hlength
    · exact ⟨root, car, List.concat_eq_append⟩
  rw [List.length_append, List.length_singleton] at hlength
  have hsegments : segments healthTopic = root ++ [car, "healthy"] := by
    rw [hfront, List.append_assoc]
    rfl
  refine ⟨root, car, ?_, hsegments, ?_⟩
  · rintro rfl
    simp at hlength
  · unfold derive
    have hcount : (root ++ [car, "healthy"]).length - 2 = root.length := by simp
    rw [hsegments, if_pos ⟨by simpa using hlength, by simp⟩, hcount,
      List.take_left, List.getElem?_append_right le_rfl]
    simp

/-- Levels without wildcards before a car of any name and the last level. -/
theorem levelsMatch_car_iff {root topic : List String} {last : String}
    (hroot : ∀ level ∈ root, level ≠ "+" ∧ level ≠ "#") (hplus : last ≠ "+")
    (hhash : last ≠ "#") :
    Topic.levelsMatch (root ++ ["+", last]) topic = true ↔
      ∃ car, topic = root ++ [car, last] := by
  have hopen : "#" ∉ root ++ ["+", last] := by
    simp only [List.mem_append, List.mem_cons, List.not_mem_nil, or_false]
    rintro (hmem | hmem | hmem)
    · exact (hroot _ hmem).2 rfl
    · exact absurd hmem (by decide)
    · exact hhash hmem.symm
  rw [Topic.levelsMatch_iff hopen]
  clear hopen
  induction root generalizing topic with
  | nil =>
      rw [List.nil_append, List.forall₂_cons_left_iff]
      simp [List.forall₂_cons_left_iff, hplus]
  | cons level root ih =>
      rw [List.forall_mem_cons] at hroot
      rw [List.cons_append, List.forall₂_cons_left_iff]
      simp only [ih hroot.2, hroot.1.1, false_or]
      constructor
      · rintro ⟨_, _, rfl, ⟨car, rfl⟩, rfl⟩
        exact ⟨car, rfl⟩
      · rintro ⟨car, rfl⟩
        exact ⟨level, _, rfl, ⟨car, rfl⟩, rfl⟩

section Filters

variable {root : List String} {last topic : String}

/-- A level of a topic name: neither a separator nor a wildcard in it. -/
def Plain (level : String) : Prop :=
  '/' ∉ level.toList ∧ '+' ∉ level.toList ∧ '#' ∉ level.toList

theorem plain_of_mem (hlast : last ∈ ["healthy", "state"]) : Plain last := by
  unfold Plain
  rcases List.mem_pair.mp hlast with rfl | rfl <;> decide

theorem levels_carFilter (hroot : ∀ level ∈ root, Plain level)
    (hlast : Plain last) :
    Topic.levels ("/".intercalate (root ++ ["+", last])) =
      root ++ ["+", last] := by
  apply Topic.levels_intercalate (by simp)
  simp only [List.mem_append, List.mem_cons, List.not_mem_nil, or_false]
  rintro level (hlevel | rfl | rfl)
  · exact (hroot level hlevel).1
  · decide
  · exact hlast.1

theorem validName_of_levels {car : String} (hroot : ∀ level ∈ root, Plain level)
    (hcar : Plain car) (hlast : Plain last)
    (hlevels : Topic.levels topic = root ++ [car, last]) :
    Topic.ValidName topic := by
  have hplain : ∀ level ∈ Topic.levels topic, Plain level := by
    rw [hlevels]
    simp only [List.mem_append, List.mem_cons, List.not_mem_nil, or_false]
    rintro level (hlevel | rfl | rfl)
    · exact hroot level hlevel
    · exact hcar
    · exact hlast
  refine ⟨?_, ?_, ?_⟩
  · rintro rfl
    rw [Topic.levels_empty] at hlevels
    have hlength := congrArg List.length hlevels
    simp at hlength
  · rw [Topic.mem_toList_iff (by decide)]
    rintro ⟨level, hlevel, hmem⟩
    exact (hplain level hlevel).2.1 hmem
  · rw [Topic.mem_toList_iff (by decide)]
    rintro ⟨level, hlevel, hmem⟩
    exact (hplain level hlevel).2.2 hmem

theorem Plain.not_wildcard {level : String} (hplain : Plain level) :
    level ≠ "+" ∧ level ≠ "#" := by
  constructor
  · rintro rfl
    exact hplain.2.1 (by decide)
  · rintro rfl
    exact hplain.2.2 (by decide)

theorem validFilter_car (hroot : ∀ level ∈ root, Plain level)
    (hlast : Plain last) :
    Topic.ValidFilter ("/".intercalate (root ++ ["+", last])) := by
  have hlevels := levels_carFilter hroot hlast
  refine ⟨?_, ?_, ?_, ?_⟩
  · intro hempty
    rw [hempty, Topic.levels_empty] at hlevels
    have hlength := congrArg List.length hlevels
    simp at hlength
  · rw [hlevels]
    simp only [List.mem_append, List.mem_cons, List.not_mem_nil, or_false]
    rintro level (hlevel | rfl | rfl) hmem
    · exact absurd hmem (hroot level hlevel).2.1
    · rfl
    · exact absurd hmem hlast.2.1
  · rw [hlevels]
    simp only [List.mem_append, List.mem_cons, List.not_mem_nil, or_false]
    rintro level (hlevel | rfl | rfl) hmem
    · exact absurd hmem (hroot level hlevel).2.2
    · exact absurd hmem (by decide)
    · exact absurd hmem hlast.2.2
  · rw [hlevels, List.dropLast_append_of_ne_nil (by simp)]
    simp only [List.dropLast_cons_cons, List.dropLast_singleton, List.mem_append,
      List.mem_singleton]
    rintro (hmem | hmem)
    · exact (hroot _ hmem).not_wildcard.2 rfl
    · exact absurd hmem (by decide)

/-- What the filter for one kind of car topic matches. -/
theorem matches_car_iff (hne : root ≠ [])
    (hroot : ∀ level ∈ root, Plain level) (hclean : Plain last) :
    Topic.Matches ("/".intercalate (root ++ ["+", last])) topic ↔
      Topic.ValidName topic ∧
        ∃ car, Topic.levels topic = root ++ [car, last] := by
  have hlevels := levels_carFilter hroot hclean
  have hmatch : Topic.levelsMatch (root ++ ["+", last]) (Topic.levels topic) =
      true ↔ ∃ car, Topic.levels topic = root ++ [car, last] :=
    levelsMatch_car_iff (fun level hlevel => (hroot level hlevel).not_wildcard)
      hclean.not_wildcard.1 hclean.not_wildcard.2
  constructor
  · rintro ⟨_, hname, hmatched, _⟩
    rw [hlevels] at hmatched
    exact ⟨hname, hmatch.mp hmatched⟩
  · rintro ⟨hname, hcar⟩
    refine ⟨validFilter_car hroot hclean, hname, ?_, ?_⟩
    · rw [hlevels]
      exact hmatch.mpr hcar
    · intro _
      rw [hlevels]
      cases root with
      | nil => exact absurd rfl hne
      | cons level root =>
          simpa using (hroot level List.mem_cons_self).not_wildcard

/-- A topic with a car of some name is about that car. -/
theorem carIdFromTopic_of_levels {car : String}
    (hroot : ∀ level ∈ root, level ≠ "") (hlast : last ≠ "") (hcar : car ≠ "")
    (hlevels : Topic.levels topic = root ++ [car, last]) :
    carIdFromTopic topic = car := by
  have hsegments : segments topic = root ++ [car, last] := by
    rw [segments_eq, hlevels, List.filter_eq_self]
    simp only [List.mem_append, List.mem_cons, List.not_mem_nil, or_false]
    rintro level (hlevel | rfl | rfl)
    · simpa using hroot level hlevel
    · simpa using hcar
    · simpa using hlast
  unfold carIdFromTopic
  rw [hsegments]
  simp

end Filters

/-- The filters cover the configured topic, and name the cars they are about. -/
structure Covers (healthTopic : String) : Prop where
  health : Topic.Matches (derive healthTopic).healthFilter healthTopic
  state : ∃ filter ∈ (derive healthTopic).stateFilter,
    Topic.Matches filter (withLastLevel healthTopic "state")
  identified : ∀ filter topic car,
    filter = (derive healthTopic).healthFilter ∨
      some filter = (derive healthTopic).stateFilter →
    Topic.Matches filter topic →
    (Topic.levels topic)[(Topic.levels filter).idxOf "+"]? = some car →
    car ≠ "" → carIdFromTopic topic = car
  primary : (derive healthTopic).primaryCarId = some (carIdFromTopic healthTopic)

section Recognised

variable {healthTopic : String} (hplus : '+' ∉ healthTopic.toList)
  (hhash : '#' ∉ healthTopic.toList) (hrecognised : Recognised healthTopic)

include hplus hhash

theorem plain_of_mem_segments {segment : String}
    (hsegment : segment ∈ segments healthTopic) :
    Plain segment ∧ segment ≠ "" := by
  rw [segments_eq] at hsegment
  obtain ⟨hlevel, hne⟩ := List.mem_filter.mp hsegment
  refine ⟨⟨Topic.not_mem_of_mem_levels hlevel, ?_, ?_⟩, by simpa using hne⟩
  · intro hmem
    exact hplus ((Topic.mem_toList_iff (by decide) healthTopic).mpr
      ⟨segment, hlevel, hmem⟩)
  · intro hmem
    exact hhash ((Topic.mem_toList_iff (by decide) healthTopic).mpr
      ⟨segment, hlevel, hmem⟩)

include hrecognised

omit hplus hhash in
/-- The car of a recognised topic is the primary one, whatever its empty
levels. -/
theorem primaryCarId_of_recognised :
    (derive healthTopic).primaryCarId = some (carIdFromTopic healthTopic) := by
  obtain ⟨root, primary, -, hsegments, hderive⟩ :=
    derive_of_recognised hrecognised
  rw [hderive, carIdFromTopic, hsegments]
  simp

/-- Whatever matches a filter is about the car it names. -/
theorem identified_of_recognised {filter topic car : String}
    (hfilter : filter = (derive healthTopic).healthFilter ∨
      some filter = (derive healthTopic).stateFilter)
    (hmatches : Topic.Matches filter topic)
    (hwildcard : (Topic.levels topic)[(Topic.levels filter).idxOf "+"]? =
      some car) (hcar : car ≠ "") : carIdFromTopic topic = car := by
  obtain ⟨root, primary, hne, hsegments, hderive⟩ :=
    derive_of_recognised hrecognised
  have hplain : ∀ level ∈ root, Plain level ∧ level ≠ "" := fun level hlevel =>
    plain_of_mem_segments hplus hhash
      (by rw [hsegments]; exact List.mem_append_left _ hlevel)
  obtain ⟨last, hlast, rfl⟩ : ∃ last ∈ ["healthy", "state"],
      filter = "/".intercalate (root ++ ["+", last]) := by
    rw [hderive] at hfilter
    rcases hfilter with rfl | hstate
    · exact ⟨"healthy", by decide, rfl⟩
    · exact ⟨"state", by decide, Option.some.inj hstate⟩
  have hclean := plain_of_mem hlast
  obtain ⟨-, found, hlevels⟩ := (matches_car_iff hne
    (fun level hlevel => (hplain level hlevel).1) hclean).mp hmatches
  have hindex : (root ++ ["+", last]).idxOf "+" = root.length := by
    rw [List.idxOf_append_of_notMem fun hmem =>
      (hplain "+" hmem).1.2.1 (by decide)]
    simp
  rw [levels_carFilter (fun level hlevel => (hplain level hlevel).1) hclean,
    hindex, hlevels, List.getElem?_append_right le_rfl] at hwildcard
  obtain rfl : found = car := by simpa using hwildcard
  apply carIdFromTopic_of_levels (fun level hlevel => (hplain level hlevel).2)
    _ hcar hlevels
  rintro rfl
  exact absurd hlast (by decide)

/-- The derived filters cover a recognised topic exactly when it has no empty
level, in particular none before a leading slash. -/
theorem covers_iff : Covers healthTopic ↔ "" ∉ Topic.levels healthTopic := by
  obtain ⟨root, primary, hne, hsegments, hderive⟩ :=
    derive_of_recognised hrecognised
  have hplain : ∀ level ∈ root, Plain level := fun level hlevel =>
    (plain_of_mem_segments hplus hhash
      (by rw [hsegments]; exact List.mem_append_left _ hlevel)).1
  have hprimary : Plain primary :=
    (plain_of_mem_segments hplus hhash (by rw [hsegments]; simp)).1
  have hhealthy : Plain "healthy" := plain_of_mem (by decide)
  have hstate : Plain "state" := plain_of_mem (by decide)
  constructor
  · intro hcovers hempty
    have hmatches := hcovers.health
    rw [hderive, matches_car_iff hne hplain hhealthy] at hmatches
    obtain ⟨-, car, hlevels⟩ := hmatches
    have hall : (segments healthTopic).length =
        (Topic.levels healthTopic).length := by
      rw [hsegments, hlevels]
      simp
    rw [segments_eq, List.length_filter_eq_length_iff] at hall
    simpa using hall "" hempty
  · intro hfull
    have hlevels : Topic.levels healthTopic = root ++ [primary, "healthy"] := by
      rw [← hsegments, segments_eq, eq_comm, List.filter_eq_self]
      intro level hlevel
      simp only [ne_eq, decide_eq_true_eq]
      rintro rfl
      exact hfull hlevel
    have hstateLevels : Topic.levels (withLastLevel healthTopic "state") =
        root ++ [primary, "state"] := by
      have hparts : (Topic.levels healthTopic).dropLast ++ ["state"] =
          root ++ [primary, "state"] := by
        rw [hlevels, List.dropLast_append_of_ne_nil (by simp)]
        simp
      rw [withLastLevel, hparts]
      apply Topic.levels_intercalate (by simp)
      simp only [List.mem_append, List.mem_cons, List.not_mem_nil, or_false]
      rintro level (hlevel | rfl | rfl)
      · exact (hplain level hlevel).1
      · exact hprimary.1
      · exact hstate.1
    refine ⟨?_, ⟨_, by rw [hderive]; rfl, ?_⟩, ?_, ?_⟩
    · rw [hderive, matches_car_iff hne hplain hhealthy]
      exact ⟨validName_of_levels hplain hprimary hhealthy hlevels, primary,
        hlevels⟩
    · rw [matches_car_iff hne hplain hstate]
      exact ⟨validName_of_levels hplain hprimary hstate hstateLevels, primary,
        hstateLevels⟩
    · intro filter topic car hfilter hmatches hwildcard hcar
      exact identified_of_recognised hplus hhash hrecognised hfilter hmatches
        hwildcard hcar
    · exact primaryCarId_of_recognised hrecognised

end Recognised

theorem covers_iff_default :
    Covers "teslamate/cars/1/healthy" ↔
      "" ∉ Topic.levels "teslamate/cars/1/healthy" :=
  covers_iff (by decide) (by decide) (by decide +kernel)

/-- A leading slash is dropped from the filter, and the broker then delivers
nothing published under the configured topic. -/
theorem leading_slash_not_covered :
    ¬∀ healthTopic : String, '+' ∉ healthTopic.toList →
      '#' ∉ healthTopic.toList → Recognised healthTopic →
      Covers healthTopic := by
  intro hcovers
  have hmatched := (hcovers "/teslamate/cars/1/healthy" (by decide) (by decide)
    (by decide +kernel)).health.matched
  exact absurd hmatched (by decide +kernel)

end TopicLayout

/-- The text of a message. -/
def Callback.text : Callback → Option String
  | .message _ payload _ _ => some (Utf8.decode payload)
  | _ => none

/-- The callback is no message, or one on a topic of the filter and about the
car. -/
def Callback.Delivered (filter carId : String) : Callback → Prop
  | .message topic _ _ _ =>
      Topic.Matches filter topic ∧ TopicLayout.carIdFromTopic topic = carId
  | _ => True

namespace WatchdogMqtt

/-- Every message the health filter delivers counts as a heartbeat of the car
its topic names. -/
structure CountsHeartbeats (config : MqttConfig) : Prop where
  counted : ∀ (client : WatchdogMqtt) topic payload time wall,
    Topic.Matches config.topics.healthFilter topic →
      ∃ car, (client.onMessage topic payload time wall).car?
          (TopicLayout.carIdFromTopic topic) = some car ∧
        car.healthyPayload = some (PyText.strip (Utf8.decode payload)) ∧
        car.healthy =
          parseBoolPayload (some (PyText.strip (Utf8.decode payload))) ∧
        car.healthyMonotonic = some time ∧ car.healthyAt = some wall
  verdict : ∀ trace carId now,
    (∀ callback ∈ trace,
      callback.Delivered config.topics.healthFilter carId) →
    (loggerHealth config (after trace) now).1.healthy =
      (latest Callback.text trace).bind fun text =>
        parseBoolPayload (some (PyText.strip text))

variable {config : MqttConfig}

/-- Where the filter ends with the level that the callback looks for, so does
every topic it delivers. -/
theorem endsWith_of_matches {filter topic : String}
    (hfilter : PyText.endsWith filter "/healthy" = true)
    (hmatches : Topic.Matches filter topic) :
    PyText.endsWith topic "/healthy" = true := by
  have hseparator : '/' ∉ "healthy".toList := by decide
  obtain ⟨front, hfront, hlevels⟩ :=
    (Topic.endsWith_iff hseparator filter).mp hfilter
  have hhash : "#" ∉ Topic.levels filter := by
    intro hmem
    rw [hlevels, List.mem_append, List.mem_singleton] at hmem
    have hlast := hmatches.validFilter.last
    rw [hlevels, List.dropLast_concat] at hlast
    rcases hmem with hmem | hmem
    · exact hlast hmem
    · exact absurd hmem (by decide)
  have hmatched := hmatches.matched
  rw [Topic.levelsMatch_iff hhash, hlevels] at hmatched
  obtain ⟨before, other, htopic, hbefore, hlast⟩ :=
    Topic.forall₂_concat_left hmatched
  obtain rfl : "healthy" = other := hlast.resolve_left (by decide)
  refine (Topic.endsWith_iff hseparator topic).mpr ⟨before, ?_, htopic⟩
  rintro rfl
  exact hfront (List.forall₂_nil_right_iff.mp hbefore)

/-- Where it does not, some topic it delivers does not either. -/
theorem exists_not_counted {filter : String}
    (hvalid : Topic.ValidFilter filter)
    (hfilter : PyText.endsWith filter "/healthy" = false) :
    ∃ topic, Topic.Matches filter topic ∧
      PyText.endsWith topic "/healthy" = false := by
  obtain ⟨topic, hmatches, hlevels⟩ := hvalid.matches_instantiate
  refine ⟨topic, hmatches, Bool.eq_false_of_not_eq_true ?_⟩
  intro hends
  have hseparator : '/' ∉ "healthy".toList := by decide
  obtain ⟨front, hfront, htopic⟩ :=
    (Topic.endsWith_iff hseparator topic).mp hends
  rw [htopic] at hlevels
  obtain ⟨before, last, hbefore, rfl, hlast⟩ :=
    List.append_eq_map_iff.mp hlevels
  obtain ⟨level, rfl, hlevel⟩ := List.map_eq_singleton_iff.mp hlast
  obtain rfl := Topic.eq_of_instantiate (by decide) hlevel
  have hends : PyText.endsWith filter "/healthy" = true := by
    refine (Topic.endsWith_iff hseparator filter).mpr ⟨before, ?_, hbefore⟩
    rintro rfl
    exact hfront rfl
  rw [hfilter] at hends
  cases hends

theorem counted_of_endsWith {client : WatchdogMqtt} {topic : String}
    {payload : List UInt8} {time : ℚ} {wall : String}
    (htopic : PyText.endsWith topic "/healthy" = true) :
    ∃ car, (client.onMessage topic payload time wall).car?
        (TopicLayout.carIdFromTopic topic) = some car ∧
      car.healthyPayload = some (PyText.strip (Utf8.decode payload)) ∧
      car.healthy =
        parseBoolPayload (some (PyText.strip (Utf8.decode payload))) ∧
      car.healthyMonotonic = some time ∧ car.healthyAt = some wall := by
  refine ⟨_, by rw [car?_onMessage, if_pos rfl], ?_⟩
  simp only [CarObservation.hear, htopic, if_true, and_self]

/-- A message that ends otherwise leaves the car it makes known without a
heartbeat. -/
theorem healthyPayload_of_not_endsWith {topic : String} {payload : List UInt8}
    {time : ℚ} {wall : String} {car : CarObservation}
    (htopic : PyText.endsWith topic "/healthy" = false)
    (hcar : (initial.onMessage topic payload time wall).car?
      (TopicLayout.carIdFromTopic topic) = some car) :
    car.healthyPayload = none := by
  rw [car?_onMessage, if_pos rfl] at hcar
  rw [← Option.some.inj hcar, CarObservation.hear,
    if_neg (by rw [htopic]; exact Bool.false_ne_true)]
  split <;> rfl

/-- Callbacks that are all about one car leave the verdict to its latest
heartbeat. -/
theorem healthy_of_delivered {filter carId : String} {trace : List Callback}
    {now : ℚ} (hends : ∀ topic, Topic.Matches filter topic →
      PyText.endsWith topic "/healthy" = true)
    (hdelivered : ∀ callback ∈ trace, callback.Delivered filter carId) :
    (loggerHealth config (after trace) now).1.healthy =
      (latest Callback.text trace).bind fun text =>
        parseBoolPayload (some (PyText.strip text)) := by
  have hrecalls := recalls_after trace
  have hbeats : ∀ callback ∈ trace, callback.text =
      (callback.heartbeat carId).map Prod.snd := by
    intro callback hcallback
    cases callback with
    | message topic payload time wall =>
        obtain ⟨hmatches, hcar⟩ := hdelivered _ hcallback
        simp [Callback.text, Callback.heartbeat, hcar, hends topic hmatches]
    | _ => rfl
  have honly : ∀ other, (∃ callback ∈ trace, callback.mentions = some other) →
      other = carId := by
    rintro other ⟨callback, hcallback, hmentions⟩
    cases callback with
    | message topic payload time wall =>
        rw [← (hdelivered _ hcallback).2]
        exact (Option.some.inj hmentions).symm
    | _ => cases hmentions
  have hhealthy : (loggerHealth config (after trace) now).1.healthy =
      ((after trace).car? carId).bind (·.healthy) := by
    rw [loggerHealth_healthy]
    cases hselected : selected config (after trace) with
    | some car =>
        have hcar := car?_of_mem (mem_of_selected hselected)
        have hknown := (hrecalls.known car.carId).mp (by rw [hcar]; rfl)
        rw [← honly car.carId hknown, hcar]
    | none =>
        rcases selected_cases config (after trace) with
          ⟨_, _, car, _, hsome⟩ | ⟨_, hnone⟩
        · rw [hselected] at hsome
          cases hsome
        · rw [hselected] at hnone
          have hcars : (after trace).cars = [] :=
            List.head?_eq_none_iff.mp (Option.or_eq_none_iff.mp hnone.symm).2
          rw [car?, hcars]
          rfl
  rw [hhealthy, hrecalls.healthy, latest_map hbeats]
  cases latest (Callback.heartbeat carId) trace with
  | none => rfl
  | some beat => simp [parseBoolPayload]

/-- Every heartbeat that is delivered is counted exactly when the derived
filter asks for the level the callback looks for, or for nothing at all. -/
theorem countsHeartbeats_iff (config : MqttConfig) :
    CountsHeartbeats config ↔
      (Topic.ValidFilter config.topics.healthFilter →
        PyText.endsWith config.topics.healthFilter "/healthy" = true) := by
  constructor
  · intro hcounts hvalid
    by_contra hends
    obtain ⟨topic, hmatches, htopic⟩ :=
      exists_not_counted hvalid (Bool.eq_false_of_not_eq_true hends)
    obtain ⟨car, hcar, hpayload, -⟩ :=
      hcounts.counted .initial topic [] 0 "" hmatches
    rw [healthyPayload_of_not_endsWith htopic hcar] at hpayload
    cases hpayload
  · intro hfilter
    have hends : ∀ topic, Topic.Matches config.topics.healthFilter topic →
        PyText.endsWith topic "/healthy" = true := fun topic hmatches =>
      endsWith_of_matches (hfilter hmatches.validFilter) hmatches
    constructor
    · intro client topic payload time wall hmatches
      exact counted_of_endsWith (hends topic hmatches)
    · intro trace carId now hdelivered
      exact healthy_of_delivered hends hdelivered

/-- A health topic of another shape, watched as it is. -/
def literalTopicConfig : MqttConfig :=
  { MqttConfig.fromEmptyEnv with
    healthTopic := "teslamate/health"
    stalenessDetectionEnabled := false
    stateFilter_of_staleness := fun hfalse => absurd hfalse Bool.false_ne_true }

/-- Its messages are received, and none of them counts. -/
theorem literal_topic_not_counted :
    ¬∀ config : MqttConfig, CountsHeartbeats config := by
  intro hcounts
  have hvalid : Topic.ValidFilter "teslamate/health" :=
    ⟨by decide, by decide +kernel, by decide +kernel, by decide +kernel⟩
  have hmatches : Topic.Matches "teslamate/health" "teslamate/health" :=
    ⟨hvalid, ⟨by decide, by decide, by decide⟩, by decide +kernel, by decide⟩
  have hfilter : literalTopicConfig.topics.healthFilter = "teslamate/health" := by
    decide +kernel
  obtain ⟨car, hcar, hpayload, -⟩ :=
    (hcounts literalTopicConfig).counted .initial "teslamate/health" [] 0 ""
      (by rw [hfilter]; exact hmatches)
  rw [healthyPayload_of_not_endsWith (by decide +kernel) hcar] at hpayload
  cases hpayload

end WatchdogMqtt

end TeslamateWatchdog
