import TopicListeners.Proofs.Container.Building

/-!
# Connecting containers

The consumers of a container are made and subscribed one after the other, whatever the provider and
the consumers do when they are called and whatever they have been through before. To see the calls,
provider and consumers are replaced by twins that note each call with its answer and with the events
that it logged. The twins note what the originals do, and change nothing about it.

* `connectChild_attempt`: one child: two calls if both answer well, else no more than the first
  that does not.
* `connectChildren_connects`: all children in turn, up to the first call with an error.
* `connect_all_or_first_error`: **the consumers of a container are all there, or the first error
  is the answer**, with all calls and all that is logged.
-/

namespace TopicListeners

variable {σ α β γ δ : Type}

/-! ## Watching calls -/

/-- A call for a consumer, or to a consumer, and its answer. -/
inductive ClientCall (σ : Type)
  | connect (group clientId : Option String) (answer : Except ClientError (Consumer σ))
  | subscribe (consumer : Consumer σ) (topics : List String) (answer : Except ClientError Unit)

/-- A call and the events that it logged. -/
abbrev NotedCall (σ : Type) := ClientCall σ × List Event

/-- A state, and the calls so far. -/
structure Watched (σ : Type) where
  state : σ
  calls : List (NotedCall σ)

/-- Does an action, notes which call it was, and passes its value on in another form. -/
def Action.watched (x : Action σ α) (call : α → ClientCall σ) (f : α → β) :
    Action (Watched σ) β :=
  ⟨fun w =>
    let o := x.run w.state
    ⟨f o.value, ⟨o.state, w.calls ++ [(call o.value, o.events)]⟩, o.events⟩⟩

/-- A consumer whose calls are noted. -/
def Consumer.watched (consumer : Consumer σ) : Consumer (Watched σ) where
  subscribe topics := (consumer.subscribe topics).watched (.subscribe consumer topics) id

/-- A provider whose calls are noted, and those of its consumers too. -/
def ConsumerProvider.watched (provider : ConsumerProvider σ) : ConsumerProvider (Watched σ) where
  label := provider.label
  properties := provider.properties
  connect group clientId :=
    (provider.connect group clientId).watched (.connect group clientId)
      (Except.map Consumer.watched)
  autoCommits := provider.autoCommits

/-- **An action and its twin**: from `s` they have the same outcome `o`, and the twin notes
`calls`. -/
structure Action.Twin (x : Action σ α) (x' : Action (Watched σ) β) (f : α → β) (s : σ)
    (o : Outcome σ α) (calls : List (NotedCall σ)) : Prop where
  run_eq : x.run s = o
  run_twin_eq : ∀ before,
    x'.run ⟨s, before⟩ = ⟨f o.value, ⟨o.state, before ++ calls⟩, o.events⟩

namespace Action

theorem twin_pure {a : α} {b : β} {f : α → β} (h : f a = b) (s : σ) :
    (pure a : Action σ α).Twin (pure b) f s ⟨a, s, []⟩ [] where
  run_eq := rfl
  run_twin_eq before := by simp [h]

theorem twin_emit (e : Event) (s : σ) :
    (emit e : Action σ Unit).Twin (emit e) id s ⟨(), s, [e]⟩ [] where
  run_eq := rfl
  run_twin_eq before := by simp

theorem twin_watched {x : Action σ α} {s : σ} {o : Outcome σ α} (h : x.run s = o)
    (call : α → ClientCall σ) (f : α → β) :
    x.Twin (x.watched call f) f s o [(call o.value, o.events)] where
  run_eq := h
  run_twin_eq before := by rw [← h]; rfl

theorem Twin.calls_eq {x : Action σ α} {x' : Action (Watched σ) β} {f : α → β} {s : σ}
    {o : Outcome σ α} {calls : List (NotedCall σ)} (h : x.Twin x' f s o calls) :
    (x'.run ⟨s, []⟩).state.calls = calls := by
  rw [h.run_twin_eq []]
  rfl

/-- **Twins go on as twins.** -/
theorem Twin.bind {x : Action σ α} {x' : Action (Watched σ) β} {f : α → β} {s t u : σ} {a : α}
    {c : γ} {events events' : List Event} {calls calls' : List (NotedCall σ)}
    {k : α → Action σ γ} {k' : β → Action (Watched σ) δ} {g : γ → δ}
    (hx : x.Twin x' f s ⟨a, t, events⟩ calls)
    (hk : (k a).Twin (k' (f a)) g t ⟨c, u, events'⟩ calls') :
    (x >>= k).Twin (x' >>= k') g s ⟨c, u, events ++ events'⟩ (calls ++ calls') where
  run_eq := by rw [run_bind, hx.run_eq, hk.run_eq]
  run_twin_eq before := by
    rw [run_bind, hx.run_twin_eq before]
    dsimp only
    rw [hk.run_twin_eq (before ++ calls), List.append_assoc]

end Action

/-! ## One child -/

/-- What a container logs about a child that was connected: which child it is, and its client id or
else the empty text. -/
def Child.report (child : Child) : Event :=
  ⟨.debug, "subscribed child consumer",
    [("child", toString child.index), ("client_id", child.clientId.getD "")]⟩

/-- A consumer that was made and subscribed, and what was logged on the way. -/
structure Connected (σ : Type) where
  consumer : Consumer σ
  making : List Event
  subscribing : List Event

namespace Connected

variable (topics : List String) (x : Connected σ) (child : Child)

/-- The calls for a child's consumer: one to make it and one to subscribe it. -/
def calls : List (NotedCall σ) :=
  [(.connect none child.clientId (.ok x.consumer), x.making),
    (.subscribe x.consumer topics (.ok ()), x.subscribing)]

/-- The events of a child's consumer: those of the calls and one of the container. -/
def events : List Event := x.making ++ (x.subscribing ++ [child.report])

end Connected

/-- The calls for a child that fails with an error: the last one answered with it. -/
inductive Failing (topics : List String) (child : Child) (e : ClientError) :
    List (NotedCall σ) → Prop
  | refused (making : List Event) :
    Failing topics child e [(.connect none child.clientId (.error e), making)]
  | unsubscribed (consumer : Consumer σ) (making subscribing : List Event) :
    Failing topics child e
      [(.connect none child.clientId (.ok consumer), making),
        (.subscribe consumer topics (.error e), subscribing)]

/-- What comes of one child: the value, the calls and the events. -/
inductive Attempt (topics : List String) (child : Child) :
    Except ClientError (Consumer σ) → List (NotedCall σ) → List Event → Prop
  | connected (x : Connected σ) :
    Attempt topics child (.ok x.consumer) (x.calls topics child) (x.events child)
  | failed {e : ClientError} {last : List (NotedCall σ)} (h : Failing topics child e last) :
    Attempt topics child (.error e) last (last.flatMap Prod.snd)

variable (provider : ConsumerProvider σ) (topics : List String)

/-- **One child**: its consumer is made, and then subscribed. -/
theorem connectChild_attempt (child : Child) (s : σ) :
    ∃ o calls, (connectChild provider topics child).Twin
        (connectChild provider.watched topics child) (Except.map Consumer.watched) s o calls ∧
      Attempt topics child o.value calls o.events := by
  rcases hmade : (provider.connect none child.clientId).run s with ⟨made, t, making⟩
  have hmaking := Action.twin_watched hmade (.connect none child.clientId)
    (Except.map Consumer.watched)
  -- an error at either call is passed on, and then nothing more is done
  cases made with
  | error e => exact ⟨_, _, hmaking.bind (Action.twin_pure (by rfl) t), .failed (.refused making)⟩
  | ok consumer =>
    rcases hjoined : (consumer.subscribe topics).run t with ⟨joined, u, subscribing⟩
    have hsubscribing := Action.twin_watched hjoined (.subscribe consumer topics) id
    cases joined with
    | error e =>
      exact ⟨_, _, hmaking.bind (hsubscribing.bind (Action.twin_pure (by rfl) u)),
        .failed (.unsubscribed consumer making subscribing)⟩
    | ok =>
      have hlogging := Action.twin_emit child.report u
      exact ⟨_, _, hmaking.bind (hsubscribing.bind (hlogging.bind (Action.twin_pure (by rfl) u))),
        .connected ⟨consumer, making, subscribing⟩⟩

/-! ## All children -/

/-- What comes of children in turn, where `xs` are the consumers of the first ones: the value, the
calls and the events. -/
inductive Connects (topics : List String) (children : List Child) (xs : List (Connected σ)) :
    Except ClientError (List (Consumer σ)) → List (NotedCall σ) → List Event → Prop
  | all (hlength : xs.length = children.length) :
    Connects topics children xs (.ok (xs.map Connected.consumer))
      (List.zipWith (Connected.calls topics) xs children).flatten
      (List.zipWith Connected.events xs children).flatten
  | stopped {child : Child} (hchild : children[xs.length]? = some child) {e : ClientError}
    {last : List (NotedCall σ)} (hlast : Failing topics child e last) :
    Connects topics children xs (.error e)
      ((List.zipWith (Connected.calls topics) xs children).flatten ++ last)
      ((List.zipWith Connected.events xs children).flatten ++ last.flatMap Prod.snd)

theorem Connects.cons {topics : List String} {children : List Child} {xs : List (Connected σ)}
    {value : Except ClientError (List (Consumer σ))} {calls : List (NotedCall σ)}
    {events : List Event} (h : Connects topics children xs value calls events) (x : Connected σ)
    (child : Child) :
    Connects topics (child :: children) (x :: xs) (value.map (x.consumer :: ·))
      (x.calls topics child ++ calls) (x.events child ++ events) := by
  cases h with
  | all hlength => exact .all (congrArg (· + 1) hlength)
  | stopped hchild hlast =>
    rw [← List.append_assoc, ← List.append_assoc]
    refine .stopped ?_ hlast
    exact hchild

theorem Connects.length_eq {topics : List String} {children : List Child}
    {xs : List (Connected σ)} {consumers : List (Consumer σ)} {calls : List (NotedCall σ)}
    {events : List Event} (h : Connects topics children xs (.ok consumers) calls events) :
    consumers.length = children.length := by
  cases h with
  | all hlength => rw [List.length_map, hlength]

/-- **All children in turn**, up to the first call with an error. -/
theorem connectChildren_connects (children : List Child) (s : σ) :
    ∃ o calls xs, (connectChildren provider topics children).Twin
        (connectChildren provider.watched topics children)
        (Except.map (List.map Consumer.watched)) s o calls ∧
      Connects topics children xs o.value calls o.events := by
  induction children generalizing s with
  | nil => exact ⟨_, _, [], Action.twin_pure (by rfl) s, .all rfl⟩
  | cons child children ih =>
    obtain ⟨⟨value, t, events⟩, calls, htwin, hattempt⟩ :=
      connectChild_attempt provider topics child s
    cases hattempt with
    | failed hlast =>
      refine ⟨_, _, [], htwin.bind (Action.twin_pure (by rfl) t), ?_⟩
      rw [List.append_nil, List.append_nil]
      exact .stopped rfl hlast
    | connected x =>
      obtain ⟨⟨rest, u, events'⟩, calls', xs, htwin', hrest⟩ := ih t
      -- what comes of the other children is passed on, with the consumer of this one
      cases rest with
      | error | ok =>
        refine ⟨_, _, x :: xs, htwin.bind (htwin'.bind (Action.twin_pure (by rfl) u)), ?_⟩
        simp only [List.append_nil]
        exact hrest.cons x child

/-! ## The events of the container -/

/-- An event that says that a consumer of a child has been subscribed. -/
def Event.isSubscribed (e : Event) : Bool := e.message == "subscribed child consumer"

/-- No call logs what the container logs. -/
def Quiet (calls : List (NotedCall σ)) : Prop :=
  ∀ call ∈ calls, ∀ e ∈ call.2, e.isSubscribed = false

theorem quiet_append {calls calls' : List (NotedCall σ)} :
    Quiet (calls ++ calls') ↔ Quiet calls ∧ Quiet calls' := List.forall_mem_append

theorem Quiet.filter_flatMap {calls : List (NotedCall σ)} (h : Quiet calls) :
    (calls.flatMap Prod.snd).filter Event.isSubscribed = [] := by
  rw [List.filter_eq_nil_iff]
  intro e he
  obtain ⟨call, hcall, he⟩ := List.mem_flatMap.1 he
  simp [h call hcall e he]

/-- A connected child is logged once. -/
theorem Connected.filter_events {topics : List String} {x : Connected σ} {child : Child}
    (h : Quiet (x.calls topics child)) :
    (x.events child).filter Event.isSubscribed = [child.report] := by
  have hevents : x.events child =
      (x.calls topics child).flatMap Prod.snd ++ [child.report] := by
    simp [Connected.events, Connected.calls]
  rw [hevents, List.filter_append, h.filter_flatMap]
  rfl

theorem filter_zipWith_events {topics : List String} (xs : List (Connected σ))
    (children : List Child)
    (h : Quiet (List.zipWith (Connected.calls topics) xs children).flatten) :
    (List.zipWith Connected.events xs children).flatten.filter Event.isSubscribed =
      (children.take xs.length).map Child.report := by
  induction xs generalizing children with
  | nil => rfl
  | cons x xs ih =>
    cases children with
    | nil => rfl
    | cons child children =>
      obtain ⟨hx, hxs⟩ := quiet_append.1 h
      calc ((x.events child) ++
              (List.zipWith Connected.events xs children).flatten).filter Event.isSubscribed
          = [child.report] ++ (children.take xs.length).map Child.report := by
            rw [List.filter_append, Connected.filter_events hx, ih children hxs]
        _ = ((child :: children).take (x :: xs).length).map Child.report := rfl

/-- **One event for each connected child.** -/
theorem Connects.filter_events {topics : List String} {children : List Child}
    {xs : List (Connected σ)} {value : Except ClientError (List (Consumer σ))}
    {calls : List (NotedCall σ)} {events : List Event}
    (h : Connects topics children xs value calls events) (hquiet : Quiet calls) :
    events.filter Event.isSubscribed = (children.take xs.length).map Child.report := by
  -- the calls for a child that fails add no such event
  cases h with
  | all => exact filter_zipWith_events xs children hquiet
  | stopped =>
    obtain ⟨hxs, hlast⟩ := quiet_append.1 hquiet
    rw [List.filter_append, hlast.filter_flatMap, List.append_nil]
    exact filter_zipWith_events xs children hxs

/-! ## Containers -/

namespace Container

/-- Connects a container with a provider whose calls are noted. -/
def watch (c : Container σ) :
    Action (Watched σ) (Except ClientError (List (Consumer (Watched σ)))) :=
  connectChildren c.provider.watched c.topics c.children

/-- **The consumers of a container are all there, or the first error is the answer.** The consumers
`xs` of the first children are made and subscribed in turn, with one event of the container for each;
then no child is left, or the calls for the next one end with the error and are the last. -/
theorem connect_all_or_first_error {b : Blueprint σ} {topics : List String} {c : Container σ}
    (h : (b.build topics).1 = .ok c) (s : σ) :
    c.children.map Child.index = List.range c.concurrency.toNat ∧
    ∃ o calls xs, c.connect.Twin c.watch (Except.map (List.map Consumer.watched)) s o calls ∧
      Connects c.topics c.children xs o.value calls o.events ∧
      (∀ consumers, o.value = .ok consumers → consumers.length = c.concurrency.toNat) ∧
      (Quiet calls →
        o.events.filter Event.isSubscribed = (c.children.take xs.length).map fun child =>
          ⟨.debug, "subscribed child consumer",
            [("child", toString child.index), ("client_id", child.clientId.getD "")]⟩) := by
  obtain ⟨provider, n, -, -, rfl⟩ := Blueprint.snapshot_of_build h
  refine ⟨map_index_childrenOf _ n, ?_⟩
  obtain ⟨o, calls, xs, htwin, hconnects⟩ :=
    connectChildren_connects provider topics (childrenOf b.container.clientId n) s
  refine ⟨o, calls, xs, htwin, hconnects, ?_, hconnects.filter_events⟩
  intro consumers hconsumers
  rw [hconsumers] at hconnects
  exact hconnects.length_eq.trans (length_childrenOf _ n)

end Container

/-- What three consumers are built from, of a provider that fails at the second call. -/
def Blueprint.failing : Blueprint Ledger :=
  empty.run
    [.provider (.recording "cluster" [] 0 (some 1)), .concurrency 3, .container (.clientId "app")]

/-- The error of the second child is the answer, after one event and three calls. -/
theorem Container.connect_all_or_first_error_second :
    ∃ c, (Blueprint.failing.build ["orders", "bills"]).1 = .ok c ∧
    ∃ o calls xs, c.connect.Twin c.watch (Except.map (List.map Consumer.watched)) ⟨[], [], [0]⟩
        o calls ∧
      Connects c.topics c.children xs o.value calls o.events ∧
      o.value = .error (.creation "stub failure") ∧ calls.length = 3 ∧
      o.events.filter Event.isSubscribed = ((c.children.take xs.length).map fun child =>
        ⟨.debug, "subscribed child consumer",
          [("child", toString child.index), ("client_id", child.clientId.getD "")]⟩) ∧
      o.events.filter Event.isSubscribed =
        [⟨.debug, "subscribed child consumer", [("child", "0"), ("client_id", "app-0")]⟩] := by
  have hbuild : (Blueprint.failing.build ["orders", "bills"]).1 = .ok (Blueprint.failing.snapshot
    (.recording "cluster" [] 0 (some 1)) 3 ["orders", "bills"]) := rfl
  obtain ⟨-, o, calls, xs, htwin, hconnects, -, hfilter⟩ :=
    connect_all_or_first_error hbuild ⟨[], [], [0]⟩
  refine ⟨_, hbuild, o, calls, xs, htwin, hconnects, ?_, ?_, hfilter ?_, ?_⟩
  · rw [← htwin.run_eq]
    rfl
  · rw [← htwin.calls_eq]
    rfl
  · rw [← htwin.calls_eq]
    unfold Quiet
    decide
  · rw [← htwin.run_eq]
    decide

end TopicListeners
