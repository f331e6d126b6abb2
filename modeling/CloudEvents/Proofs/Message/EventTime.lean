import CloudEvents.Proofs.Message.History
import CloudEvents.Proofs.Time.Rfc3339
/-!
# The time of an event

A builder keeps the time of an event as a text, and asking the event for its time reads that text.
In between, the builder may be changed and may build, and the event is put under the prefix of its
transport. None of it touches the text.

* A change leaves alone what it does not name, and building fills in only what is missing. So what
  was put under a key is held there until something names the key again
  (`Builder.held?_append_of_spares`).
* What a builder holds under the key of an attribute is the value of the attribute in the event, for
  every transport (`Builder.attributeValue_event_of_get?`).
* The text is read as the time that it was made of, but for a distance from universal time of less
  than a second (`Time.Timestamp.read?_textWith`).

## Main statements

* `Builder.Action.spares_setAttribute`: setting an attribute leaves the other ones alone;
* `Builder.get_time_event`: what an event answers to the time that its builder holds;
* `Builder.get_time_of_setAttribute`: the time that was set is the time of the event.
-/

namespace CloudEvents

namespace Builder

open Time (Timestamp)

/-! ## What stays -/

/-- Whether an action does not name a key. Building names none: it fills in what is missing. -/
def Action.Spares (k : String) : Action → Prop
  | call c => k ∉ c.names
  | build _ => True

instance (k : String) : DecidablePred (Action.Spares k)
  | .call c => inferInstanceAs (Decidable (k ∉ c.names))
  | .build _ => inferInstanceAs (Decidable True)

/-- Setting an attribute names no other one. -/
theorem Action.spares_setAttribute {a b : Attribute} (h : a ≠ b) (v : Value) :
    (Action.call (.setAttribute b v)).Spares a.key := by
  intro hmem
  exact h (Attribute.name_inj.1 (Prefix.key_inj.1 (List.mem_singleton.1 hmem)))

/-- Attributes are set under canonical keys. -/
theorem Action.permitted_setAttribute (a : Attribute) (v : Value) :
    (Action.call (.setAttribute a v)).Permitted := by
  intro name hname
  rw [List.mem_singleton.1 hname]
  exact Prefix.not_foreign_of_ofKey (Or.inl (Prefix.ofKey_key (by decide) a.name))

/-- An action that does not name a key leaves there what is there. -/
theorem Action.leaves_of_spares {action : Action} {k : String} (h : action.Spares k)
    (payload : Value) (identity : String) (v : Value) :
    action.leaves payload identity k (some v) = some v := by
  cases action with
  | call c =>
    obtain ⟨hputs, -⟩ := Call.puts?_of_not_mem h
    unfold leaves
    simp only [hputs]
    rfl
  | build p => rfl

/-- And so does a row of such actions. -/
theorem held?_append_of_spares {payload : Value} {k : String} {past : List (Action × String)}
    {v : Value} (hv : held? payload k past = some v) {since : List (Action × String)}
    (h : ∀ e ∈ since, e.1.Spares k) : held? payload k (since ++ past) = some v := by
  induction since with
  | nil => exact hv
  | cons e rest ih =>
    rw [List.cons_append, held?, ih fun e he => h e (List.mem_cons_of_mem _ he)]
    exact Action.leaves_of_spares (h e List.mem_cons_self) payload e.2 v

/-! ## What an event answers -/

/-- What a builder holds under the key of an attribute is what the event has as its value. -/
theorem attributeValue_event_of_get? {b : Builder} (h : b.headers.KeysUnder .canonical)
    {p : Prefix} (hp : p ≠ .none) (there : b.payload.isNull = false) (mint : Mint) (n : Nat)
    {a : Attribute} {v : Value} (hv : b.headers.get? a.key = some v) :
    (b.event there p mint n).headers.attributeValue a = v := by
  rw [attributeValue_event h hp, Fields.value, get?_filled, hv]
  rfl

/-- The text of a timestamp is asked for as what can be read back of it. -/
theorem get_time_event {b : Builder} (h : b.headers.KeysUnder .canonical) {p : Prefix}
    (hp : p ≠ .none) (there : b.payload.isNull = false) (mint : Mint) (n : Nat) {t : Timestamp}
    (ht : b.headers.get? Attribute.time.key = some (.text t.text)) :
    Accessor.time.get (b.event there p mint n).headers = .ok (.time t.readBack) := by
  have hread : Timestamp.read? t.text = some t.readBack :=
    Timestamp.read?_textWith (by decide) t
  show Attribute.timestamp ((b.event there p mint n).headers.attributeValue .time) = _
  rw [attributeValue_event_of_get? h hp there mint n ht]
  exact (Time.timestamp_eq_ok_iff rfl).2 hread

/-! ## The time that was set -/

section SetTime

variable {x : Value} (hx : x.isNull = false) {before since : List Action}
  (hbefore : ∀ action ∈ before, action.Permitted)
  (hsince : ∀ action ∈ since, action.Permitted ∧ action.Spares Attribute.time.key)

include hx hbefore hsince

/-- A builder whose time was set, and not named since, holds the text of that time. -/
theorem exec_performAll_setAttribute_time (t : Timestamp) (mint : Mint) (journal : Journal) :
    ∃ b after,
      (performAll { payload := x } (before ++ .call (.setAttribute .time (.time t)) :: since)).exec
        mint journal = (.ok b, after) ∧
      b.payload = x ∧ b.headers.KeysUnder .canonical ∧
      b.headers.get? Attribute.time.key = some (.text t.text) := by
  have hpermitted : ∀ action ∈ before ++ .call (.setAttribute .time (.time t)) :: since,
      action.Permitted := by
    intro action haction
    rcases List.mem_append.1 haction with haction | haction
    · exact hbefore action haction
    · rcases List.mem_cons.1 haction with rfl | haction
      · exact Action.permitted_setAttribute .time _
      · exact (hsince action haction).1
  have hstart : ∀ k, ({ payload := x } : Builder).headers.get? k = held? x k [] := fun _ => rfl
  obtain ⟨b, history, after, hrun, hpayload, hactions, -, hheld⟩ :=
    exec_performAll (b := { payload := x }) hx hpermitted hstart mint journal
  simp only [List.append_nil] at hheld
  refine ⟨b, after, hrun, hpayload, keysUnder_of_held hheld fun e he => ?_, ?_⟩
  · exact hpermitted e.1 (List.mem_reverse.1 (hactions ▸ List.mem_map_of_mem he))
  · -- the latest actions come first, down to the one that set the time
    rw [List.reverse_append, List.reverse_cons, List.append_assoc, List.singleton_append,
      List.map_eq_append_iff] at hactions
    obtain ⟨late, rest, rfl, hlate, hrest⟩ := hactions
    obtain ⟨e, early, rfl, he, -⟩ := List.map_eq_cons_iff.1 hrest
    rw [hheld]
    refine held?_append_of_spares ?_ fun e he => ?_
    · rw [held?, he]
      rfl
    · have hmem : e.1 ∈ since.reverse := hlate ▸ List.mem_map_of_mem he
      exact (hsince e.1 (List.mem_reverse.1 hmem)).2

/-- **The time of an event is the time that was set.**  A builder that was started with a payload
gets a time: any date and time of day down to the microsecond, with no distance from universal time
or with one of whole seconds to either side. Before that it may have been used in any way, with no
name under a foreign prefix, and so it may be used after that as long as nothing names the time
again; setting other attributes does not. Every event that it then makes, for whichever transport,
answers that it has exactly this time. -/
theorem get_time_of_setAttribute {t : Timestamp}
    (ht : ∀ o, t.offset = some o → 1000000 ∣ o.micros) (mint : Mint) (journal : Journal) :
    ∃ b after,
      (performAll { payload := x } (before ++ .call (.setAttribute .time (.time t)) :: since)).exec
        mint journal = (.ok b, after) ∧
      ∀ p : Prefix, p ≠ .none → ∀ (mint' : Mint) (journal' : Journal), ∃ b' m after',
        (b.buildEvent p).exec mint' journal' = (.ok (b', .ok m), after') ∧
        Accessor.time.get m.headers = .ok (.time t) := by
  obtain ⟨b, after, hrun, hpayload, hunder, hheld⟩ :=
    exec_performAll_setAttribute_time hx hbefore hsince t mint journal
  have there : b.payload.isNull = false := hpayload ▸ hx
  have hback : t.readBack = t := by
    rw [Timestamp.readBack_eq_self_iff]
    intro o ho
    have hseconds := ht o ho
    omega
  refine ⟨b, after, hrun, fun p hp mint' journal' => ?_⟩
  refine ⟨_, _, _, exec_buildEvent b there hp mint' journal', ?_⟩
  rw [get_time_event hunder hp there mint' journal'.drawn hheld, hback]

end SetTime

/-- The first microsecond of the calendar, a second to the west of universal time. -/
def firstMicrosecond : Timestamp where
  date := ⟨1, 1, 1, by decide, by decide, by decide⟩
  clock := { Time.Clock.midnight with micro := 1, micro_lt := by decide }
  offset := some ⟨-1000000, by decide⟩

/-- A builder gets a subject and makes an event. -/
def earlierActions : List Action := [.call (.setAttribute .subject (.text "7")), .build .amqp]

/-- Later it makes another one, loses the subject and gets a type. -/
def laterActions : List Action :=
  [.build .kafka, .call (.setAttribute .subject .null),
    .call (.setAttribute .type (.text "ce_time"))]

/-- In between, its time was set. -/
theorem get_time_of_setAttribute_firstMicrosecond :
    firstMicrosecond.text = "0001-01-01T00:00:00.000001-00:00:01" ∧
      ∃ b after,
        (performAll { payload := .int 7 } (earlierActions ++
            .call (.setAttribute .time (.time firstMicrosecond)) :: laterActions)).exec
          ⟨fun _ => "1", 0⟩ {} = (.ok b, after) ∧
        ∃ b' m after',
          (b.buildEvent .kafka).exec ⟨fun _ => "2", 5⟩ after = (.ok (b', .ok m), after') ∧
          Accessor.time.get m.headers = .ok (.time firstMicrosecond) := by
  have hearlier : ∀ action ∈ earlierActions, action.Permitted := by decide
  have hlater : ∀ action ∈ laterActions,
      action.Permitted ∧ action.Spares Attribute.time.key := by decide
  have hseconds : ∀ o, firstMicrosecond.offset = some o → 1000000 ∣ o.micros := by
    intro o ho
    cases ho
    decide
  obtain ⟨b, after, hrun, hevent⟩ := get_time_of_setAttribute (x := .int 7) rfl hearlier hlater
    hseconds ⟨fun _ => "1", 0⟩ {}
  exact ⟨rfl, b, after, hrun, hevent .kafka (by decide) ⟨fun _ => "2", 5⟩ after⟩

end Builder

end CloudEvents
