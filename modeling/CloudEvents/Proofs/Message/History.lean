import CloudEvents.Proofs.Attribute.Accessor
import CloudEvents.Proofs.Conversion.Merge
import CloudEvents.Proofs.Conversion.Shape
import CloudEvents.Proofs.Message.Event
/-!
# The history of a builder

A builder for events may be changed and may build in any order, and building changes it too: what is
filled in for the first event is there for the next one. What it holds under a key is told by its
history alone, read from the latest action back to the first (`Builder.held?`): the last value that
was put there decides, unless it was taken out since; what is only put where nothing is, by
`setIfAbsent` or by building, counts where nothing was before.

As long as no name in the history is under a foreign prefix, the events that are built are the same
for all transports, and what can be asked of one is what the builder holds.

## Main statements

* `Builder.get?_apply`, `Builder.exec_perform`: what one action leaves in the builder;
* `Builder.exec_performAll`: what a whole history leaves there;
* `Builder.attributeValue_event`, `Builder.get_event`: what can be asked of an event;
* `Builder.builds_agree`: builds of one builder agree with it and with each other.
-/

namespace CloudEvents

namespace Builder

/-! ## Actions -/

/-- The names of the headers that a change is about. -/
def Call.names : Call → List String
  | set name _ | setIfAbsent name _ | remove name => [name]
  | setAll headers => headers.keys
  | setAttribute a _ => [a.key]

/-- The value that a change puts under a key, null where it takes the key out. -/
def Call.puts? (k : String) : Call → Option Value
  | set name v => if k = name then some v else none
  | remove name => if k = name then some .null else none
  | setAll headers => headers.get? k
  | setAttribute a v => if k = a.key then some (stored a v) else none
  | setIfAbsent _ _ => none

/-- The value that a change puts under a key if nothing is there. -/
def Call.offers? (k : String) : Call → Option Value
  | setIfAbsent name v => if k = name then v.toOption else none
  | _ => none

/-- What is done with a builder. -/
inductive Action where
  /-- It is changed. -/
  | call (c : Call)
  /-- An event is built for a transport. -/
  | build (p : Prefix)

/-- Whether an action names nothing under a foreign prefix, and builds for some transport only. -/
def Action.Permitted : Action → Prop
  | call c => ∀ name ∈ c.names, ¬Prefix.Foreign name
  | build p => p ≠ .none

instance : DecidablePred Action.Permitted
  | .call c => inferInstanceAs (Decidable (∀ name ∈ c.names, ¬Prefix.Foreign name))
  | .build p => inferInstanceAs (Decidable (p ≠ .none))

/-- Does something with a builder, and keeps the builder as it is afterwards. -/
def perform (b : Builder) : Action → Run Builder
  | .call c => pure (b.apply c)
  | .build p => Prod.fst <$> b.buildEvent p

/-- Does one thing after the other. -/
def performAll (b : Builder) : List Action → Run Builder
  | [] => pure b
  | action :: rest => do
    let b ← b.perform action
    b.performAll rest

/-- What an action leaves under a key where `before` was; building comes with the identity that it
fills in. -/
def Action.leaves (payload : Value) (identity k : String) (before : Option Value) :
    Action → Option Value
  | call c =>
    match c.puts? k with
    | some v => v.toOption
    | none => before.or (c.offers? k)
  | build _ => before.or ((defaults payload identity).lookup k)

/-- What is held under a key after a history, the latest action first, each with the identity that
was to be drawn next. -/
def held? (payload : Value) (k : String) : List (Action × String) → Option Value
  | [] => none
  | e :: past => e.1.leaves payload e.2 k (held? payload k past)

/-! ## What an action leaves -/

theorem get?_apply (b : Builder) (c : Call) (k : String) :
    (b.apply c).headers.get? k =
      match c.puts? k with
      | some v => v.toOption
      | none => (b.headers.get? k).or (c.offers? k) := by
  have hset : ∀ name v, (b.set name v).headers.get? k =
      match (if k = name then some v else none) with
      | some v => v.toOption
      | none => (b.headers.get? k).or none := by
    intro name v
    rw [get?_set]
    by_cases hk : k = name
    · rw [if_pos hk, if_pos hk]
    · rw [if_neg hk, if_neg hk, Option.or_none]
  cases c with
  | set name v => exact hset name v
  | setIfAbsent name v => exact get?_setIfAbsent b name v k
  | setAttribute a v => exact hset a.key (stored a v)
  | remove name =>
    show (b.headers.erase name).get? k = _
    rw [← show (b.set name .null).headers = b.headers.erase name from rfl, hset]
    rfl
  | setAll headers =>
    show (b.setEntries headers.entries).headers.get? k = _
    rw [get?_setEntries headers.nodup]
    show _ = match headers.entries.lookup k with
      | some v => v.toOption
      | none => (b.headers.get? k).or none
    cases headers.entries.lookup k with
    | some v => rfl
    | none => exact (Option.or_none).symm

@[simp] theorem payload_apply (b : Builder) (c : Call) : (b.apply c).payload = b.payload := by
  cases c with
  | set name v => rfl
  | setIfAbsent name v => exact payload_setIfAbsent b name v
  | remove name => rfl
  | setAll headers => exact payload_setEntries b headers.entries
  | setAttribute a v => rfl

/-- An action never fails, and leaves what it should under every key. -/
theorem exec_perform (b : Builder) (there : b.payload.isNull = false) {action : Action}
    (h : action.Permitted) (mint : Mint) (journal : Journal) :
    ∃ b' after, (b.perform action).exec mint journal = (.ok b', after) ∧ b'.payload = b.payload ∧
      ∀ k, b'.headers.get? k =
        action.leaves b.payload (mint.identity journal.drawn) k (b.headers.get? k) := by
  cases action with
  | call c => exact ⟨b.apply c, journal, rfl, payload_apply b c, get?_apply b c⟩
  | build p =>
    refine ⟨b.filled (mint.identity journal.drawn),
      { journal with drawn := journal.drawn + b.drawnFor + 1 }, ?_, payload_filled b _,
      get?_filled b _⟩
    unfold perform
    rw [Run.exec_map, exec_buildEvent b there h]
    rfl

/-- A row of actions never fails, and leaves what the history says. The induction is on the actions
that are still to be done; those that are done have become the past. -/
theorem exec_performAll {actions : List Action} {b : Builder} (there : b.payload.isNull = false)
    (h : ∀ action ∈ actions, action.Permitted) {past : List (Action × String)}
    (hpast : ∀ k, b.headers.get? k = held? b.payload k past) (mint : Mint) (journal : Journal) :
    ∃ b' since after, (b.performAll actions).exec mint journal = (.ok b', after) ∧
      b'.payload = b.payload ∧ since.map Prod.fst = actions.reverse ∧
      (∀ e ∈ since, ∃ n, e.2 = mint.identity n) ∧
      ∀ k, b'.headers.get? k = held? b'.payload k (since ++ past) := by
  induction actions generalizing b past journal with
  | nil => exact ⟨b, [], journal, rfl, rfl, rfl, fun e he => absurd he List.not_mem_nil, hpast⟩
  | cons action rest ih =>
    obtain ⟨b₁, after₁, hrun₁, hpayload₁, hleaves⟩ :=
      exec_perform b there (h action List.mem_cons_self) mint journal
    have hpast₁ : ∀ k, b₁.headers.get? k
        = held? b₁.payload k ((action, mint.identity journal.drawn) :: past) := by
      intro k
      rw [hleaves, hpast, hpayload₁]
      rfl
    obtain ⟨b', since, after, hrun, hpayload, hactions, hdrawn, hheld⟩ :=
      ih (hpayload₁ ▸ there) (fun a ha => h a (List.mem_cons_of_mem action ha)) hpast₁ after₁
    refine ⟨b', since ++ [(action, mint.identity journal.drawn)], after, ?_,
      hpayload.trans hpayload₁, ?_, ?_, ?_⟩
    · unfold performAll
      rw [Run.exec_bind, hrun₁]
      exact hrun
    · rw [List.map_append, hactions, List.reverse_cons]
      rfl
    · intro e he
      rcases List.mem_append.1 he with he | he
      · exact hdrawn e he
      · rw [List.mem_singleton.1 he]
        exact ⟨journal.drawn, rfl⟩
    · intro k
      rw [hheld, List.append_assoc]
      rfl

/-! ## What is held -/

/-- A change leaves alone what it does not name. -/
theorem Call.puts?_of_not_mem {c : Call} {k : String} (h : k ∉ c.names) :
    c.puts? k = none ∧ c.offers? k = none := by
  cases c with
  | set name v => exact ⟨if_neg (List.ne_of_not_mem_cons h), rfl⟩
  | setIfAbsent name v => exact ⟨rfl, if_neg (List.ne_of_not_mem_cons h)⟩
  | remove name => exact ⟨if_neg (List.ne_of_not_mem_cons h), rfl⟩
  | setAll headers => exact ⟨Fields.get?_eq_none_iff.2 h, rfl⟩
  | setAttribute a v => exact ⟨if_neg (List.ne_of_not_mem_cons h), rfl⟩

/-- Nothing is held under a foreign prefix. -/
theorem held?_of_foreign {payload : Value} {k : String} (hk : Prefix.Foreign k)
    {history : List (Action × String)} (h : ∀ e ∈ history, e.1.Permitted) :
    held? payload k history = none := by
  induction history with
  | nil => rfl
  | cons e past ih =>
    obtain ⟨action, identity⟩ := e
    have hbefore := ih fun e he => h e (List.mem_cons_of_mem _ he)
    have hpermitted := h (action, identity) List.mem_cons_self
    unfold held?
    rw [hbefore]
    cases action with
    | call c =>
      obtain ⟨hputs, hoffers⟩ := Call.puts?_of_not_mem fun hname => hpermitted k hname hk
      unfold Action.leaves
      simp only [hputs, hoffers]
      rfl
    | build p =>
      show (defaults payload identity).lookup k = none
      refine Fields.lookup_of_not_mem fun hmem => ?_
      obtain ⟨e, he, rfl⟩ := List.mem_map.1 hmem
      exact Prefix.not_foreign_of_ofKey (Or.inl (ofKey_of_mem_defaults he)) hk

/-- What is held is there. -/
theorem not_isNull_of_held? {payload : Value} {k : String} {history : List (Action × String)}
    {v : Value} (h : held? payload k history = some v) : v.isNull = false := by
  induction history with
  | nil => cases h
  | cons e past ih =>
    obtain ⟨action, identity⟩ := e
    unfold held? Action.leaves at h
    cases action with
    | call c =>
      simp only at h
      cases hputs : c.puts? k with
      | some w =>
        rw [hputs] at h
        exact Value.not_isNull_of_toOption h
      | none =>
        rw [hputs] at h
        rcases Option.or_eq_some_iff.1 h with hbefore | ⟨-, hoffers⟩
        · exact ih hbefore
        · unfold Call.offers? at hoffers
          split at hoffers
          · split at hoffers
            · exact Value.not_isNull_of_toOption hoffers
            · cases hoffers
          · cases hoffers
    | build p =>
      rcases Option.or_eq_some_iff.1 h with hbefore | ⟨-, hdefault⟩
      · exact ih hbefore
      · exact not_isNull_of_mem_defaults
          ((Fields.lookup_eq_some_iff (nodup_defaults payload identity)).1 hdefault)

theorem keysUnder_of_held {b : Builder} {history : List (Action × String)}
    (hheld : ∀ k, b.headers.get? k = held? b.payload k history)
    (h : ∀ e ∈ history, e.1.Permitted) : b.headers.KeysUnder .canonical := by
  intro k hk
  have hnot : ¬Prefix.Foreign k := by
    intro hforeign
    rw [Fields.mem_iff_isSome_get?, hheld, held?_of_foreign hforeign h] at hk
    cases hk
  rw [Prefix.foreign_iff] at hnot
  cases hkey : Prefix.ofKey k with
  | none => exact Or.inl rfl
  | canonical => exact Or.inr rfl
  | kafka => exact absurd (Or.inl hkey) hnot
  | amqp => exact absurd (Or.inr hkey) hnot

/-- A builder that has built holds what its history with this last action says. -/
theorem get?_filled_of_held {b : Builder} {history : List (Action × String)}
    (hheld : ∀ k, b.headers.get? k = held? b.payload k history) (p : Prefix) (identity k : String) :
    (b.filled identity).headers.get? k
      = held? b.payload k ((.build p, identity) :: history) := by
  rw [get?_filled, hheld]
  rfl

/-! ## Builders that are filled -/

/-- What is filled in is there. -/
theorem mem_filled_of_mem_defaults {b : Builder} {identity identity' : String}
    {e : String × Value} (h : e ∈ defaults b.payload identity') :
    e.1 ∈ (b.filled identity).headers := by
  have hnames : (defaults b.payload identity').map Prod.fst
      = (defaults b.payload identity).map Prod.fst := rfl
  exact mem_filled.2 (Or.inr (hnames ▸ List.mem_map_of_mem h))

theorem foldl_setIfAbsent_of_mem {l : List (String × Value)} {b : Builder}
    (h : ∀ e ∈ l, e.1 ∈ b.headers) : l.foldl (fun b e => b.setIfAbsent e.1 e.2) b = b := by
  induction l with
  | nil => rfl
  | cons e l ih =>
    rw [List.foldl_cons, setIfAbsent, if_pos (h e List.mem_cons_self)]
    exact ih fun e' he' => h e' (List.mem_cons_of_mem e he')

/-- A builder is filled only once. -/
theorem filled_filled (b : Builder) (identity identity' : String) :
    (b.filled identity).filled identity' = b.filled identity := by
  rw [filled_eq_foldl]
  refine foldl_setIfAbsent_of_mem fun e he => ?_
  rw [payload_filled] at he
  exact mem_filled_of_mem_defaults he

end Builder

/-! ## What can be asked of an event -/

/-- What an accessor makes of the value of an attribute. -/
def Accessor.read : Accessor → Value → Except Error Value
  | id, v | specversion, v | type, v | subject, v => .ok v
  | source, v => Attribute.source.uri v
  | datacontenttype, v => .ok v.withMediaTypeText
  | dataschema, v => Attribute.dataschema.uri v
  | time, v => Attribute.timestamp v

/-- An accessor takes the first of its attributes that is there, or null. -/
theorem Accessor.get_eq_read (a : Accessor) (headers : Fields Value) :
    a.get headers =
      a.read ((a.attributes.findSome? fun b => (headers.attributeValue b).toOption).getD .null) := by
  have hone : ∀ b : Attribute, ([b].findSome? fun b => (headers.attributeValue b).toOption).getD
      .null = headers.attributeValue b := by
    intro b
    rw [List.findSome?_singleton]
    exact Value.getD_toOption _
  have hschema : ([Attribute.dataschema, .schemaurl].findSome? fun b =>
      (headers.attributeValue b).toOption).getD .null = headers.schemaValue := by
    unfold Fields.schemaValue
    rw [List.findSome?_cons]
    cases hnull : (headers.attributeValue .dataschema).isNull with
    | true =>
      rw [Value.isNull_iff.1 hnull, Value.toOption_null]
      exact hone .schemaurl
    | false =>
      rw [Value.toOption_of_not_isNull hnull]
      show headers.attributeValue .dataschema = if _ then _ else headers.attributeValue .dataschema
      rw [hnull, if_neg Bool.false_ne_true]
  cases a with
  | dataschema => exact (congrArg Attribute.dataschema.uri hschema).symm
  | source => exact (congrArg Attribute.source.uri (hone .source)).symm
  | time => exact (congrArg Attribute.timestamp (hone .time)).symm
  | datacontenttype =>
    exact (congrArg (fun v => Except.ok v.withMediaTypeText) (hone .datacontenttype)).symm
  | id => exact (congrArg Except.ok (hone .id)).symm
  | specversion => exact (congrArg Except.ok (hone .specversion)).symm
  | type => exact (congrArg Except.ok (hone .type)).symm
  | subject => exact (congrArg Except.ok (hone .subject)).symm

namespace Builder

/-- The attributes of an event are looked up under the prefix of its transport, and are those that
the builder holds. -/
theorem attributeValue_event {b : Builder} (h : b.headers.KeysUnder .canonical) {q : Prefix}
    (hq : q ≠ .none) (there : b.payload.isNull = false) (mint : Mint) (n : Nat) (a : Attribute) :
    (b.event there q mint n).headers.attributeValue a
      = (b.filled (mint.identity n)).headers.value a.key := by
  have hget : ∀ a : Attribute, (b.event there q mint n).headers.get? (q.key a.name)
      = (b.filled (mint.identity n)).headers.get? a.key := by
    intro a
    rw [← transportKey_key]
    exact get?_event h hq there mint n (Or.inr (Prefix.ofKey_key (by decide) a.name))
      (Header.isStamp_key (by decide) a.name)
  have hid : q.key Attribute.id.name ∈ (b.event there q mint n).headers := by
    rw [Fields.mem_iff_isSome_get?, hget]
    exact Fields.mem_iff_isSome_get?.1 (mem_filled_of_mem_defaults
      (e := (Attribute.id.key, .text (mint.identity n))) List.mem_cons_self)
  have hlookup : (b.event there q mint n).headers.lookupPrefix = q :=
    (keysUnder_event h hq there mint n).lookupPrefix_eq hid (by rw [Prefix.ofKey_key hq]; exact hq)
  unfold Fields.attributeValue Fields.value
  rw [hlookup, hget]

/-- What can be asked of an event is what the builder holds after it was filled. -/
theorem get_event {b : Builder} (h : b.headers.KeysUnder .canonical) {q : Prefix} (hq : q ≠ .none)
    (there : b.payload.isNull = false) (mint : Mint) (n : Nat)
    (hthere : ∀ k v, (b.filled (mint.identity n)).headers.get? k = some v → v.isNull = false)
    (a : Accessor) :
    a.get (b.event there q mint n).headers =
      a.read ((a.attributes.findSome? fun c =>
        (b.filled (mint.identity n)).headers.get? c.key).getD .null) := by
  have hvalue : ∀ c : Attribute, ((b.event there q mint n).headers.attributeValue c).toOption
      = (b.filled (mint.identity n)).headers.get? c.key := by
    intro c
    rw [attributeValue_event h hq]
    unfold Fields.value
    cases hget : (b.filled (mint.identity n)).headers.get? c.key with
    | none => rfl
    | some v => exact Value.toOption_of_not_isNull (hthere _ v hget)
  rw [Accessor.get_eq_read]
  simp only [hvalue]

/-! ## Builds that follow each other -/

/-- The next event of a builder has the same headers as the last one, whatever the transports, but
for the identity, and for the timestamp if the builder holds none. -/
theorem get?_canonicalize_event_event {b : Builder} (h : b.headers.KeysUnder .canonical)
    {p q : Prefix} (hp : p ≠ .none) (hq : q ≠ .none) (there : b.payload.isNull = false)
    {mint mint' : Mint} {n n' : Nat} (there' : (b.filled (mint.identity n)).payload.isNull = false)
    {k : String} (hk : k ≠ Header.identity)
    (htime : k = Header.timestamp → ∃ t, b.headers.get? k = some t ∧ t.isNull = false) :
    (b.event there p mint n).headers.canonicalize.get? k =
      ((b.filled (mint.identity n)).event there' q mint' n').headers.canonicalize.get? k := by
  have hfilled := keysUnder_filled h (mint.identity n)
  by_cases hts : k = Header.timestamp
  · obtain ⟨t, ht, hthere⟩ := htime hts
    rw [hts] at ht ⊢
    have hkept : (b.filled (mint.identity n)).headers.get? Header.timestamp = some t := by
      rw [get?_filled, ht, Option.some_or]
    rw [Message.get?_timestamp_canonicalize, Message.get?_timestamp_canonicalize,
      timestamp_event h hp there mint n ht hthere,
      timestamp_event hfilled hq there' mint' n' hkept hthere]
  · have hstamp : Header.isStamp k = false := by simp [Header.isStamp, hk, hts]
    rw [get?_canonicalize_event h hp there mint n hstamp,
      get?_canonicalize_event hfilled hq there' mint' n' hstamp, filled_filled]

/-- **One builder, any transport, any number of builds.**  A builder that was started with a payload
and used in any way, with no name under a foreign prefix, holds under every key what its history
says. It may then build for any two transports one after the other. The second build changes nothing
about the builder. Brought back under the canonical prefix, both events have the same headers but
for their identities, and for their timestamps if the builder holds none; so they are the same
event. And what can be asked of an event, for whichever transport it was built, is what the builder
holds, the attributes that were filled in among it. -/
theorem builds_agree {x : Value} (hx : x.isNull = false) {actions : List Action}
    (hactions : ∀ action ∈ actions, action.Permitted) (mint : Mint) (journal : Journal) :
    ∃ (b : Builder) (history : List (Action × String)) (after : Journal),
      (performAll { payload := x } actions).exec mint journal = (.ok b, after) ∧
      history.map Prod.fst = actions.reverse ∧ (∀ e ∈ history, ∃ n, e.2 = mint.identity n) ∧
      (∀ k, b.headers.get? k = held? x k history) ∧
      ∀ p q : Prefix, p ≠ .none → q ≠ .none → ∀ (mint₁ mint₂ : Mint) (journal₁ journal₂ : Journal),
        ∃ (b₁ : Builder) (m₁ m₂ : Message) (after₁ after₂ : Journal),
          (b.buildEvent p).exec mint₁ journal₁ = (.ok (b₁, .ok m₁), after₁) ∧
          (b₁.buildEvent q).exec mint₂ journal₂ = (.ok (b₁, .ok m₂), after₂) ∧
          (∀ k, k ≠ Header.identity → (k = Header.timestamp → k ∈ b.headers) →
            m₁.headers.canonicalize.get? k = m₂.headers.canonicalize.get? k) ∧
          Accessor.id.get m₁.headers = Accessor.id.get m₂.headers ∧
          ∀ a : Accessor, a.get m₁.headers =
            a.read ((a.attributes.findSome? fun c => held? x c.key
              ((.build p, mint₁.identity journal₁.drawn) :: history)).getD .null) := by
  have hstart : ∀ k, ({ payload := x } : Builder).headers.get? k = held? x k [] := fun _ => rfl
  obtain ⟨b, history, after, hrun, hpayload, hhistory, hdrawn, hheld⟩ :=
    exec_performAll (b := { payload := x }) hx hactions hstart mint journal
  simp only [List.append_nil] at hheld
  have hpermitted : ∀ e ∈ history, e.1.Permitted := by
    intro e he
    have hmem : e.1 ∈ actions.reverse := hhistory ▸ List.mem_map_of_mem he
    exact hactions e.1 (List.mem_reverse.1 hmem)
  have hunder := keysUnder_of_held hheld hpermitted
  have hsame : b.payload = x := hpayload
  subst hsame
  refine ⟨b, history, after, hrun, hhistory, hdrawn, hheld,
    fun p q hp hq mint₁ mint₂ journal₁ journal₂ => ?_⟩
  have hx₁ : (b.filled (mint₁.identity journal₁.drawn)).payload.isNull = false := by
    rw [payload_filled, hx]
  have hfilled := keysUnder_filled hunder (mint₁.identity journal₁.drawn)
  have hsecond := exec_buildEvent _ hx₁ hq mint₂ journal₂
  rw [filled_filled] at hsecond
  refine ⟨_, _, _, _, _, exec_buildEvent b hx hp mint₁ journal₁, hsecond, ?_, ?_, ?_⟩
  · intro k hk htime
    refine get?_canonicalize_event_event hunder hp hq hx hx₁ hk fun hts => ?_
    obtain ⟨t, ht⟩ := Fields.exists_get?_of_mem (htime hts)
    exact ⟨t, ht, not_isNull_of_held? ((hheld k).symm.trans ht)⟩
  · show Except.ok _ = Except.ok _
    rw [attributeValue_event hunder hp, attributeValue_event hfilled hq, filled_filled]
  · intro a
    have hget := get?_filled_of_held hheld p (mint₁.identity journal₁.drawn)
    rw [get_event hunder hp hx mint₁ journal₁.drawn fun k v hv =>
      not_isNull_of_held? ((hget k).symm.trans hv)]
    simp only [hget]

/-- A builder that gets a type, makes an event and loses the type again. -/
def resetActions : List Action :=
  [.call (.setAttribute .type (.text "order")), .build .kafka, .call (.set "ce-type" .null),
    .call (.setIfAbsent "ce-subject" (.text "7"))]

/-- Its next event has the type that is filled in, and the identity of the first one. -/
theorem builds_agree_resetActions :
    ∃ (b : Builder) (after : Journal),
      (performAll { payload := .bool true } resetActions).exec ⟨fun _ => "1", 0⟩ {}
          = (.ok b, after) ∧
      ∃ (b₁ : Builder) (m₁ : Message) (after₁ : Journal),
        (b.buildEvent .amqp).exec ⟨fun _ => "2", 5⟩ after = (.ok (b₁, .ok m₁), after₁) ∧
        Accessor.type.get m₁.headers = .ok (.text "bool") ∧
        Accessor.subject.get m₁.headers = .ok (.text "7") ∧
        Accessor.id.get m₁.headers = .ok (.text "1") := by
  have hpermitted : ∀ action ∈ resetActions, action.Permitted := by decide
  obtain ⟨b, history, after, hrun, hhistory, hdrawn, -, hbuilds⟩ := builds_agree
    (x := .bool true) rfl hpermitted ⟨fun _ => "1", 0⟩ {}
  obtain ⟨b₁, m₁, m₂, after₁, after₂, hbuild, -, -, -, hget⟩ := hbuilds .amqp .canonical
    (by decide) (by decide) ⟨fun _ => "2", 5⟩ ⟨fun _ => "2", 5⟩ after after
  have hall : history = (history.map Prod.fst).map fun action => (action, "1") := by
    rw [List.map_map]
    refine ((List.map_congr_left fun e he => ?_).trans history.map_id).symm
    obtain ⟨n, hn⟩ := hdrawn e he
    exact Prod.ext rfl hn.symm
  rw [hhistory] at hall
  subst hall
  refine ⟨b, after, hrun, b₁, m₁, after₁, hbuild, ?_, ?_, ?_⟩
  · rw [hget]
    rfl
  · rw [hget]
    rfl
  · rw [hget]
    rfl

end Builder

end CloudEvents
