import FirmwareFirst.Proofs.Stretch

/-!
# Two runs side by side

Two scenarios run the same steps from related states. `Simulation` lists what it takes that their
states stay related and that the steps answer the same, and `Simulation.steps` says that it is
enough: of the steps that hold other steps nothing is asked but that the relation lets readers come
and go.
-/

namespace FirmwareFirst.Scenario

variable {σ : Type} {S S' : Scenario σ} {capture capture' : Capturing σ}
  {R : State σ → State σ → Prop} {Q : List Outcome → List Outcome → Prop}

/-- Runs of `S` and of `S'` keep their states related by `R` and their outcomes by `Q`. -/
structure Simulation (S S' : Scenario σ) (capture capture' : Capturing σ)
    (R : State σ → State σ → Prop) (Q : List Outcome → List Outcome → Prop) : Prop where
  config : S'.source.config = S.source.config
  hold {m n : State σ} (h : R m n) : n.hold = m.hold
  region {m n : State σ} (h : R m n) : n.region = m.region
  say {m n : State σ} (h : R m n) (messages : List Message) : R (m.say messages) (n.say messages)
  core {m n : State σ} (h : R m n) (c : CoreRecord → CoreRecord) :
    R { m with core := c m.core } { n with core := c n.core }
  enter {m n : State σ} (h : R m n) {hold : Hold} (hshare : m.hold.share? = some hold) :
    R { m with hold := hold } { n with hold := hold }
  leave {m n k l : State σ} (h : R m n) (h' : R k l) :
    R { k with hold := m.hold } { l with hold := m.hold }
  single {m n : State σ} (h : R m n) {s : Step} (hs : s.isSingle = true) :
    R (S.stepWith capture s m).1 (S'.stepWith capture' s n).1 ∧
      (S'.stepWith capture' s n).2.1 = (S.stepWith capture s m).2.1 ∧
      ∀ a after, Q [.mk s a (S.stepWith capture s m).2.2 after]
        [.mk s a (S'.stepWith capture' s n).2.2 after]
  nil : Q [] []
  append {os ps os' ps' : List Outcome} (h : Q os os') (h' : Q ps ps') : Q (os ++ ps) (os' ++ ps')
  wrap {os os' : List Outcome} (h : Q os os') (s : Step) (a : Answer)
    (after : Except CallError Region) : Q [.mk s a os after] [.mk s a os' after]

/-! ## Installations -/

/-- States related by `R` and outcomes related by `Q` stay so as an installation goes on. -/
structure Coupling (R : State σ → State σ → Prop) (Q : List Outcome → List Outcome → Prop) :
    Prop where
  say {m n : State σ} (h : R m n) (messages : List Message) : R (m.say messages) (n.say messages)
  core {m n : State σ} (h : R m n) (c : CoreRecord → CoreRecord) :
    R { m with core := c m.core } { n with core := c n.core }
  base {m n : State σ} (h : R m n) : n.view.map Region.base = m.view.map Region.base
  append {os ps os' ps' : List Outcome} (h : Q os os') (h' : Q ps ps') : Q (os ++ ps) (os' ++ ps')

namespace Simulation

/-- Two installations side by side. -/
structure Abreast (R : State σ → State σ → Prop) (Q : List Outcome → List Outcome → Prop)
    (w w' : Installing σ) : Prop where
  state : R w.state w'.state
  inside : Q w.inside w'.inside
  calls : w'.calls = w.calls

theorem Abreast.say (both : Coupling R Q) {w w' : Installing σ} (h : Abreast R Q w w')
    (messages : List Message) :
    Abreast R Q { w with state := w.state.say messages }
      { w' with state := w'.state.say messages } :=
  ⟨both.say h.state messages, h.inside, h.calls⟩

theorem Abreast.core (both : Coupling R Q) {w w' : Installing σ} (h : Abreast R Q w w')
    (c : CoreRecord → CoreRecord) :
    Abreast R Q { w with state := { w.state with core := c w.state.core } }
      { w' with state := { w'.state with core := c w'.state.core } } :=
  ⟨both.core h.state c, h.inside, h.calls⟩

/-- A request leaves two installations abreast if what happens during it keeps states related. -/
theorem Abreast.request (both : Coupling R Q) {w w' : Installing σ} (h : Abreast R Q w w')
    (call : CoreCall) (c : CoreRecord → CoreRecord)
    {happen happen' : State σ → State σ × List Outcome}
    (hhappen : ∀ {m n}, R m n → R (happen m).1 (happen' n).1 ∧ Q (happen m).2 (happen' n).2) :
    Abreast R Q (w.request call c happen) (w'.request call c happen') := by
  have hh := hhappen (both.core h.state c)
  exact ⟨hh.1, both.append h.inside hh.2, congrArg (· ++ [call]) h.calls⟩

/-- Two installations abreast find the same base of the region. -/
theorem Abreast.regionBase_eq (both : Coupling R Q) {w w' : Installing σ} (h : Abreast R Q w w')
    (replies : CoreReplies) (f g u f' g' u' : State σ → State σ × List Outcome) :
    (Installing.services replies f' g' u').regionBase w' =
      (Installing.services replies f g u).regionBase w := by
  have hbase := both.base h.state
  simp only [Installing.services]
  cases hv : w.state.view with
  | error e =>
    cases hv' : w'.state.view with
    | error e' => rfl
    | ok r' => simp [hv, hv', Except.map] at hbase
  | ok r =>
    cases hv' : w'.state.view with
    | error e' => simp [hv, hv', Except.map] at hbase
    | ok r' => simpa [hv, hv', Except.map] using hbase

/-- Two installations of one configuration end abreast, and with the same result. -/
theorem Abreast.install (both : Coupling R Q) (config : SourceConfig) (replies : CoreReplies)
    {f g u f' g' u' : State σ → State σ × List Outcome}
    (hf : ∀ {m n}, R m n → R (f m).1 (f' n).1 ∧ Q (f m).2 (f' n).2)
    (hg : ∀ {m n}, R m n → R (g m).1 (g' n).1 ∧ Q (g m).2 (g' n).2)
    (hu : ∀ {m n}, R m n → R (u m).1 (u' n).1 ∧ Q (u m).2 (u' n).2)
    {w w' : Installing σ} (h : Abreast R Q w w') :
    Abreast R Q (installSource (Installing.services replies f g u) config w).1
        (installSource (Installing.services replies f' g' u') config w').1 ∧
      (installSource (Installing.services replies f' g' u') config w').2 =
        (installSource (Installing.services replies f g u) config w).2 := by
  obtain ⟨onRegistered, onInstalled, onUnregistered⟩ := replies
  replace h := h.request both (.register config.handler) (fun c => { c with handler := true }) hf
  unfold installSource
  cases onRegistered with
  | error status => exact ⟨h.say both _, rfl⟩
  | ok registration =>
    replace h := h.request both (.install descriptorProtocol)
      (fun c => { c with interface := true }) hg
    cases onInstalled with
    | ok handle =>
      have hbase :=
        h.regionBase_eq both ⟨.ok registration, .ok handle, onUnregistered⟩ f g u f' g' u'
      simp only [Installing.services] at hbase ⊢
      rw [hbase]
      exact ⟨h.say both _, trivial⟩
    | error status =>
      replace h := ((h.core both (fun c => { c with interface := false })).say both
        [.interfaceNotInstalled config.sourceId status]).request both
          (.unregister registration) (fun c => { c with handler := false }) hu
      cases onUnregistered with
      | ok => exact ⟨h, rfl⟩
      | error failure => exact ⟨h.say both _, rfl⟩

/-! ## Runs -/

theorem view (sim : Simulation S S' capture capture' R Q) {m n : State σ} (h : R m n) :
    n.view = m.view := by
  rw [State.view, State.view, sim.hold h, sim.region h]

theorem coupling (sim : Simulation S S' capture capture' R Q) : Coupling R Q where
  say := sim.say
  core := sim.core
  base h := by rw [sim.view h]
  append := sim.append

mutual

/-- A step keeps states related and answers the same. -/
theorem step (sim : Simulation S S' capture capture' R Q) {m n : State σ} (h : R m n) :
    (s : Step) → R (S.stepWith capture s m).1 (S'.stepWith capture' s n).1 ∧
      (S'.stepWith capture' s n).2.1 = (S.stepWith capture s m).2.1 ∧
      ∀ a after, Q [.mk s a (S.stepWith capture s m).2.2 after]
        [.mk s a (S'.stepWith capture' s n).2.2 after]
  | .withRegion inside => by
    rw [stepWith, stepWith, sim.hold h]
    cases hk : m.hold.share? with
    | none => exact ⟨h, rfl, fun a after => sim.wrap sim.nil _ a after⟩
    | some hold =>
      obtain ⟨hr, hq⟩ := steps sim (sim.enter h hk) inside
      have hheld : hold ≠ .free := Hold.ne_free_of_share? hk
      have hm := ((stepsWith_stretch S capture { m with hold := hold } inside).hold_of_held hheld).1
      have hn :=
        ((stepsWith_stretch S' capture' { n with hold := hold } inside).hold_of_held hheld).1
      refine ⟨?_, congrArg (fun r => Answer.region (.ok r)) (sim.region h),
        fun a after => sim.wrap hq _ a after⟩
      simp only [hm, hn, Hold.unshare_share? hk]
      exact sim.leave h hr
  | .install replies onRegister onInstall onUnregister => by
    have hstart : Abreast R Q ⟨m, [], []⟩ ⟨n, [], []⟩ := ⟨h, sim.nil, rfl⟩
    obtain ⟨hw, hresult⟩ := hstart.install sim.coupling S.source.config replies
      (fun h => steps sim h onRegister) (fun h => steps sim h onInstall)
      (fun h => steps sim h onUnregister)
    rw [stepWith, stepWith, sim.config]
    refine ⟨hw.state, ?_, fun a after => sim.wrap hw.inside _ a after⟩
    simp only [hresult, hw.calls]
  | .getDescriptors buffer length count => sim.single h rfl
  | .descriptor => sim.single h rfl
  | .handleEvent buffer size => sim.single h rfl
  | .handle buffer size => sim.single h rfl
  | .dispatch buffer size => sim.single h rfl
  | .callInterface call => sim.single h rfl
  | .config => sim.single h rfl
  | .outside event => sim.single h rfl

/-- **Two runs of the same steps** keep states related and come to related outcomes. -/
theorem steps (sim : Simulation S S' capture capture' R Q) {m n : State σ} (h : R m n) :
    (ss : List Step) → R (S.stepsWith capture ss m).1 (S'.stepsWith capture' ss n).1 ∧
      Q (S.stepsWith capture ss m).2 (S'.stepsWith capture' ss n).2
  | [] => by
    rw [stepsWith, stepsWith]
    exact ⟨h, sim.nil⟩
  | s :: rest => by
    obtain ⟨hr, ha, hq⟩ := step sim h s
    obtain ⟨hr', hq'⟩ := steps sim hr rest
    rw [stepsWith, stepsWith]
    refine ⟨hr', ?_⟩
    simp only [ha, sim.view hr]
    exact sim.append (hq _ _) hq'

end

end Simulation
end FirmwareFirst.Scenario
