import Fieldwatch.Text.Quoted

/-!
# Counters

What the service counts, and the sample lines in which the counts are shown. A counter appears
with its first count, even if that is zero.
-/
namespace Fieldwatch

inductive Counter
  /-- Entries added to the outbox. -/
  | eventsStaged
  /-- Deliveries handled by the inbox, by type of event and outcome. -/
  | inboxEvents (eventType outcome : String)
  /-- Measured durations of inbox handling. -/
  | inboxDurations
  /-- Readings stored. -/
  | readingsAccepted
  /-- Readings refused, by reason. -/
  | readingsRejected (reason : String)
  /-- Deliveries that will be repeated. -/
  | redeliveries
  /-- Deliveries given up. -/
  | deadLetters
  /-- Outbox entries published. -/
  | eventsPublished
  /-- Publications refused by the broker. -/
  | publishFailures
  /-- Published entries dropped. -/
  | entriesPruned
  deriving DecidableEq, Repr

namespace Counter

/-- The name of a counter in its sample line. -/
def name : Counter → String
  | eventsStaged => "outbox_events_staged_total"
  | inboxEvents .. => "inbox_events_total"
  | inboxDurations => "inbox_handler_duration_seconds_count"
  | readingsAccepted => "ingest_readings_accepted_total"
  | readingsRejected _ => "ingest_readings_rejected_total"
  | redeliveries => "broker_redeliveries_total"
  | deadLetters => "broker_dead_letters_total"
  | eventsPublished => "outbox_events_published_total"
  | publishFailures => "outbox_publish_failures_total"
  | entriesPruned => "outbox_entries_pruned_total"

def labels : Counter → List (String × String)
  | inboxEvents eventType outcome => [("event_type", eventType), ("outcome", outcome)]
  | readingsRejected reason => [("reason", reason)]
  | _ => []

/-- The characters of a label value with quotes and line ends escaped. A backslash is held back
until the next character shows what becomes of it: a quote takes it for its own escape, a second
backslash makes one escaped backslash with it, and any other character is preceded by an escaped
backslash. A line end goes ahead of a backslash held back. -/
def escapedFrom (held : Bool) : List Char → List Char
  | [] => if held then ['\\', '\\'] else []
  | '\n' :: rest => '\\' :: 'n' :: escapedFrom held rest
  | '"' :: rest => '\\' :: '"' :: escapedFrom false rest
  | '\\' :: rest =>
    if held then '\\' :: '\\' :: escapedFrom false rest else escapedFrom true rest
  | c :: rest =>
    if held then '\\' :: '\\' :: c :: escapedFrom false rest else c :: escapedFrom false rest

def escaped (value : String) : String :=
  String.ofList (escapedFrom false value.toList)

/-- The name and the labels of a counter as its sample line shows them. -/
def heading (counter : Counter) : String :=
  let labels := counter.labels.map fun (label, value) => label ++ "=\"" ++ escaped value ++ "\""
  counter.name ++ if labels.isEmpty then "" else "\x7b" ++ ",".intercalate labels ++ "\x7d"

end Counter

structure Counters where
  entries : List (Counter × Nat) := []
  deriving DecidableEq

namespace Counters

def get (counters : Counters) (counter : Counter) : Nat :=
  ((counters.entries.find? fun entry => entry.1 = counter).map Prod.snd).getD 0

def add (counters : Counters) (counter : Counter) (count : Nat) : Counters :=
  if counters.entries.any fun entry => entry.1 = counter then
    ⟨counters.entries.map fun entry =>
      if entry.1 = counter then (counter, entry.2 + count) else entry⟩
  else ⟨counters.entries ++ [(counter, count)]⟩

/-- A count changes by what is added to it, and no other does. -/
theorem get_add (counters : Counters) (counter other : Counter) (count : Nat) :
    (counters.add counter count).get other =
      counters.get other + if counter = other then count else 0 := by
  obtain ⟨entries⟩ := counters
  by_cases known : entries.any fun entry => entry.1 = counter
  · have names (entry : Counter × Nat) :
        (if entry.1 = counter then (counter, entry.2 + count) else entry).1 = entry.1 := by
      split
      · next same => exact same.symm
      · rfl
    simp only [get, add, known, if_true, List.find?_map, Function.comp_def, names]
    cases found : entries.find? fun entry => entry.1 = other with
    | none =>
      have different : counter ≠ other := by
        rintro rfl
        obtain ⟨entry, member, named⟩ := List.any_eq_true.mp known
        exact List.find?_eq_none.mp found entry member named
      simp [different]
    | some entry =>
      have named : entry.1 = other := by simpa using List.find?_some found
      by_cases same : counter = other
      · simp [same, named]
      · simp [same, named, Ne.symm same]
  · have absent : entries.find? (fun entry => entry.1 = counter) = none := by
      refine List.find?_eq_none.mpr fun entry member named => ?_
      exact known (List.any_eq_true.mpr ⟨entry, member, named⟩)
    simp only [get, add, known, Bool.false_eq_true, if_false, List.find?_append]
    by_cases same : counter = other
    · subst same
      simp [absent]
    · simp [same]

/-- The sample lines in the order of their text. Counters with the same heading share a line, which
shows the count of the first. -/
def lines (counters : Counters) : List String :=
  let samples := (counters.entries.map fun entry => (entry.1.heading, entry.2)).eraseDupsBy
    fun a b => a.1 == b.1
  (samples.map fun sample => sample.1 ++ " " ++ toString sample.2).mergeSort
    fun a b => decide (a ≤ b)

end Counters
end Fieldwatch
