import Mathlib.Data.List.Nodup
import FirmwareFirst.Scenario.Run

/-!
# Installations, one after another

Several sources are installed with one firmware core. Each installation registers a handler, and a
registration is taken back again if the interface cannot be installed. `Attempt` lists the ways in
which an installation can go, with the requests it makes and what it leaves behind, and
`FirmwareCore.installSource_attempt` says that there are no others. If the requests that fail change
nothing, then after any number of attempts the core holds what the successful ones left there, and
the registrations of which it said itself that it could not take them back
(`installations_leave_nothing_behind`).
-/

namespace FirmwareFirst

variable {W α ι : Type}

/-! ## One installation -/

/-- An installation goes one of three ways: the handler is not registered, or both steps are taken,
or the second fails and the first is taken back as far as the core lets it. -/
theorem installSource_cases (s : Services W ι) (config : SourceConfig) (w : W) :
    (∃ w₁ status, s.register config.handler w = (w₁, .error status) ∧
      installSource s config w =
        (s.log (.handlerNotRegistered config.sourceId status) w₁, .error (.core status))) ∨
    ∃ w₁ registration w₂ interface w₃, s.register config.handler w = (w₁, .ok registration) ∧
      s.allocate w₁ = (w₂, interface) ∧
      ((∃ handle, s.install descriptorProtocol interface w₂ = (w₃, .ok handle) ∧
        installSource s config w =
          (s.log (.sourceInstalled config.sourceId config.event (s.regionBase w₃)) w₃,
            .ok handle)) ∨
      ∃ status w₄ reply, s.install descriptorProtocol interface w₂ = (w₃, .error status) ∧
        s.unregister registration (s.release interface
          (s.log (.interfaceNotInstalled config.sourceId status) w₃)) = (w₄, reply) ∧
        installSource s config w =
          (match reply with
            | .ok () => w₄
            | .error failure => s.log (.handlerNotUnregistered config.sourceId failure) w₄,
            .error (.core status))) := by
  unfold installSource
  rcases hr : s.register config.handler w with ⟨w₁, status | registration⟩
  · exact .inl ⟨w₁, status, rfl, rfl⟩
  rcases ha : s.allocate w₁ with ⟨w₂, interface⟩
  rcases hi : s.install descriptorProtocol interface w₂ with ⟨w₃, status | handle⟩
  · rcases hu : s.unregister registration (s.release interface
        (s.log (.interfaceNotInstalled config.sourceId status) w₃)) with ⟨w₄, failure | _⟩
    · exact .inr ⟨w₁, registration, w₂, interface, w₃, rfl, ha,
        .inr ⟨status, w₄, .error failure, hi, hu, by simp only [ha, hi, hu]⟩⟩
    · exact .inr ⟨w₁, registration, w₂, interface, w₃, rfl, ha,
        .inr ⟨status, w₄, .ok (), hi, hu, by simp only [ha, hi, hu]⟩⟩
  · exact .inr ⟨w₁, registration, w₂, interface, w₃, rfl, ha,
      .inl ⟨handle, hi, by simp only [ha, hi]⟩⟩

/-- What every request keeps, an installation keeps. -/
theorem installSource_kept {s : Services W ι} {I : W → Prop}
    (hregister : ∀ guid w, I w → I (s.register guid w).1)
    (hinstall : ∀ guid interface w, I w → I (s.install guid interface w).1)
    (hunregister : ∀ registration w, I w → I (s.unregister registration w).1)
    (hallocate : ∀ w, I w → I (s.allocate w).1)
    (hrelease : ∀ interface w, I w → I (s.release interface w))
    (hlog : ∀ message w, I w → I (s.log message w)) (config : SourceConfig) {w : W} (h : I w) :
    I (installSource s config w).1 := by
  replace h := hregister config.handler w h
  rcases installSource_cases s config w with ⟨w₁, status, hr, heq⟩ |
    ⟨w₁, registration, w₂, interface, w₃, hr, ha, hrest⟩
  · rw [hr] at h
    rw [heq]
    exact hlog _ _ h
  · rw [hr] at h
    replace h := hallocate w₁ h
    rw [ha] at h
    replace h := hinstall descriptorProtocol interface w₂ h
    rcases hrest with ⟨handle, hi, heq⟩ | ⟨status, w₄, reply, hi, hu, heq⟩
    · rw [hi] at h
      rw [heq]
      exact hlog _ _ h
    · rw [hi] at h
      replace h := hunregister registration _ (hrelease interface _
        (hlog (.interfaceNotInstalled config.sourceId status) w₃ h))
      rw [hu] at h
      rw [heq]
      cases reply with
      | ok => exact h
      | error failure => exact hlog _ _ h

namespace Scenario

variable {σ : Type}

/-- What is kept by the steps that happen during the requests, by what the firmware core remembers
and by the log, is kept by the installation of a source. -/
theorem install_kept {I : Installing σ → Prop} {replies : CoreReplies}
    {onRegister onInstall onUnregister : State σ → State σ × List Outcome}
    (hregister : ∀ call core w, I w → I (w.request call core onRegister))
    (hinstall : ∀ call core w, I w → I (w.request call core onInstall))
    (hunregister : ∀ call core w, I w → I (w.request call core onUnregister))
    (hcore : ∀ core w, I w → I { w with state := { w.state with core := core } })
    (hlog : ∀ messages w, I w → I { w with state := w.state.say messages })
    (config : SourceConfig) {w : Installing σ} (h : I w) :
    I (installSource (Installing.services replies onRegister onInstall onUnregister) config
      w).1 := by
  refine installSource_kept ?_ ?_ ?_ (fun _ h => h) (fun _ _ h => h) ?_ config h
  · intro guid w h
    exact hregister (.register guid) (fun c => { c with handler := true }) w h
  · intro guid interface w h
    replace h := hinstall (.install guid) (fun c => { c with interface := true }) w h
    simp only [Installing.services]
    cases replies.install with
    | ok handle => exact h
    | error status => exact hcore _ _ h
  · intro registration w h
    exact hunregister (.unregister registration) (fun c => { c with handler := false }) w h
  · intro message w h
    exact hlog _ w h

/-- An installation during which nothing happens changes what the firmware core remembers and the
log, but not the source. -/
theorem step_install (S : Scenario σ) (replies : CoreReplies) (m : State σ) :
    ∃ core messages, (S.step (.install replies [] [] []) m).1 =
      ({ m with core := core } : State σ).say messages := by
  have hquiet : ∀ call (core : CoreRecord → CoreRecord) (w : Installing σ),
      (∃ core messages, w.state = ({ m with core := core } : State σ).say messages) →
      ∃ core' messages, (w.request call core (S.stepsWith S.capture [])).state =
        ({ m with core := core' } : State σ).say messages := by
    rintro call core w ⟨c, messages, hw⟩
    refine ⟨core w.state.core, messages, ?_⟩
    simp only [Installing.request, stepsWith, hw]
    rfl
  simp only [step, stepWith]
  refine install_kept hquiet hquiet hquiet ?_ ?_ _ ⟨m.core, [], (State.say_nil m).symm⟩
  · rintro core w ⟨c, messages, hw⟩
    exact ⟨core, messages, by rw [hw]; rfl⟩
  · rintro more w ⟨c, messages, hw⟩
    exact ⟨c, messages ++ more, by rw [hw, State.say_say]⟩

end Scenario

/-! ## Sites -/

/-- An interface that was made for a source. -/
structure Interface (α : Type) where
  source : α
  /-- How many were made before it. -/
  number : Nat
deriving DecidableEq

/-- A handler that is registered. -/
structure Registration (α : Type) where
  source : α
  guid : Guid
  handle : Handle
deriving DecidableEq

/-- A request to the firmware core, and what it answered. -/
inductive Request (α : Type)
  | register (source : α) (handler : Guid) (reply : Except Status Handle)
  | install (protocol : Guid) (interface : Interface α) (reply : Except Status Handle)
  | unregister (registration : Handle) (reply : Except Status Unit)

/-- A firmware core for sources of type `α`, as its world `W` changes with the requests. -/
structure FirmwareCore (W α : Type) where
  register : α → Guid → W → W × Except Status Handle
  install : Guid → Interface α → W → W × Except Status Handle
  unregister : Handle → W → W × Except Status Unit

/-- A place where sources are installed. -/
structure Site (W α : Type) where
  core : W
  /-- All requests to the core so far. -/
  requests : List (Request α) := []
  /-- All interfaces made so far. -/
  made : List (Interface α) := []
  /-- The interfaces that were freed, in that order. -/
  released : List (Interface α) := []
  log : List Message := []

namespace FirmwareCore

variable (C : FirmwareCore W α) (config : α → SourceConfig) (base : α → W → UInt64)

/-- The core as it serves the installation of a source. -/
def services (source : α) : Services (Site W α) (Interface α) where
  register guid w :=
    let (core, reply) := C.register source guid w.core
    ({ w with core := core, requests := w.requests ++ [.register source guid reply] }, reply)
  install protocol interface w :=
    let (core, reply) := C.install protocol interface w.core
    ({ w with core := core, requests := w.requests ++ [.install protocol interface reply] }, reply)
  unregister registration w :=
    let (core, reply) := C.unregister registration w.core
    ({ w with core := core, requests := w.requests ++ [.unregister registration reply] }, reply)
  allocate w :=
    let interface : Interface α := ⟨source, w.made.length⟩
    ({ w with made := w.made ++ [interface] }, interface)
  release interface w := { w with released := w.released ++ [interface] }
  log message w := { w with log := w.log ++ [message] }
  regionBase w := base source w.core

/-- Installs some sources one after another. -/
def installAll : List α → Site W α → Site W α × List (Except CallError Handle)
  | [], w => (w, [])
  | source :: rest, w =>
    let (w, result) := installSource (C.services base source) (config source) w
    let (w, results) := installAll rest w
    (w, result :: results)

/-- What is relied on of a core with the given tables of handlers and of interfaces, last entries
first. A request that fails changes neither of them. One that does not enters the handler or the
interface, or strikes the last handler that was registered under the handle. -/
structure Lawful (handlers : W → List (Registration α))
    (interfaces : W → List (Handle × Interface α)) : Prop where
  register {source guid w w' reply} (h : C.register source guid w = (w', reply)) :
    handlers w' = (match reply with
      | .ok handle => [⟨source, guid, handle⟩]
      | .error _ => []) ++ handlers w ∧ interfaces w' = interfaces w
  install {protocol interface w w' reply} (h : C.install protocol interface w = (w', reply)) :
    handlers w' = handlers w ∧ interfaces w' = (match reply with
      | .ok handle => [(handle, interface)]
      | .error _ => []) ++ interfaces w
  unregister {registration w w' reply} (h : C.unregister registration w = (w', reply)) :
    handlers w' = (match reply with
      | .ok () => (handlers w).eraseP fun r => r.handle == registration
      | .error _ => handlers w) ∧ interfaces w' = interfaces w

end FirmwareCore

/-! ## Attempts -/

/-- How the installation of a source went. -/
inductive Attempt (α : Type)
  /-- The handler was not registered. -/
  | unregistered (source : α) (status : Status)
  /-- The handler was registered and the interface installed. -/
  | installed (registration : Handle) (interface : Interface α) (handle : Handle)
  /-- The interface was not installed, and the core was asked to take the registration back. -/
  | takenBack (registration : Handle) (interface : Interface α) (status : Status)
      (reply : Except Status Unit)

namespace Attempt

/-- The source that was to be installed. -/
def source : Attempt α → α
  | unregistered source _ => source
  | installed _ interface _ => interface.source
  | takenBack _ interface _ _ => interface.source

/-- What the installation answered. -/
def result : Attempt α → Except CallError Handle
  | unregistered _ status => .error (.core status)
  | installed _ _ handle => .ok handle
  | takenBack _ _ status _ => .error (.core status)

/-- All requests to the core, in their order. -/
def requests (config : α → SourceConfig) : Attempt α → List (Request α)
  | unregistered source status => [.register source (config source).handler (.error status)]
  | installed registration interface handle =>
    [.register interface.source (config interface.source).handler (.ok registration),
      .install descriptorProtocol interface (.ok handle)]
  | takenBack registration interface status reply =>
    [.register interface.source (config interface.source).handler (.ok registration),
      .install descriptorProtocol interface (.error status), .unregister registration reply]

/-- The interface that was made. -/
def made? : Attempt α → Option (Interface α)
  | unregistered _ _ => none
  | installed _ interface _ => some interface
  | takenBack _ interface _ _ => some interface

/-- The interface that was freed again. -/
def released? : Attempt α → Option (Interface α)
  | takenBack _ interface _ _ => some interface
  | _ => none

/-- The handler that is left registered. -/
def registration? (config : α → SourceConfig) : Attempt α → Option (Registration α)
  | installed registration interface _ =>
    some ⟨interface.source, (config interface.source).handler, registration⟩
  | takenBack registration interface _ (.error _) =>
    some ⟨interface.source, (config interface.source).handler, registration⟩
  | _ => none

/-- The interface that is left installed, and its handle. -/
def interface? : Attempt α → Option (Handle × Interface α)
  | installed _ interface handle => some (handle, interface)
  | _ => none

theorem made?_of_released? {a : Attempt α} {i : Interface α} (h : a.released? = some i) :
    a.made? = some i := by
  cases a <;> first | exact h | cases h

/-- Only interfaces that were made are freed, and in the order in which they were made. -/
theorem released_sublist (attempts : List (Attempt α)) :
    (attempts.filterMap released?).Sublist (attempts.filterMap made?) := by
  induction attempts with
  | nil => exact .slnil
  | cons a attempts ih =>
    cases a with
    | unregistered source status => exact ih
    | installed registration interface handle => exact ih.cons interface
    | takenBack registration interface status reply => exact ih.cons_cons interface

/-- An interface that was made once was made in one attempt. -/
theorem exists_made {attempts : List (Attempt α)} {i : Interface α}
    (hnodup : (attempts.filterMap made?).Nodup) (hi : i ∈ attempts.filterMap made?) :
    ∃ before a after, attempts = before ++ a :: after ∧ a.made? = some i ∧
      ∀ b ∈ before ++ after, b.made? ≠ some i := by
  obtain ⟨a, ha, hmade⟩ := List.mem_filterMap.1 hi
  obtain ⟨before, after, rfl⟩ := List.append_of_mem ha
  refine ⟨before, a, after, rfl, hmade, fun b hb hb' => ?_⟩
  rw [List.filterMap_append, List.filterMap_cons_some hmade, List.nodup_middle,
    List.nodup_cons, ← List.filterMap_append] at hnodup
  exact hnodup.1 (List.mem_filterMap.2 ⟨b, hb, hb'⟩)

/-- An interface that was made is not freed if and only if the attempt that made it was
successful. -/
theorem not_mem_released_iff {attempts : List (Attempt α)} {i : Interface α}
    (hnodup : (attempts.filterMap made?).Nodup) (hi : i ∈ attempts.filterMap made?) :
    i ∉ attempts.filterMap released? ↔ ∃ before registration handle after,
      attempts = before ++ .installed registration i handle :: after ∧
        ∀ a ∈ before ++ after, a.made? ≠ some i := by
  constructor
  · intro hkept
    obtain ⟨before, a, after, rfl, hmade, hother⟩ := exists_made hnodup hi
    cases a with
    | unregistered source status => cases hmade
    | installed registration interface handle =>
      cases hmade
      exact ⟨before, registration, handle, after, rfl, hother⟩
    | takenBack registration interface status reply =>
      have hfreed : (takenBack registration interface status reply).released? = some i := hmade
      refine (hkept (List.mem_filterMap.2 ⟨_, ?_, hfreed⟩)).elim
      exact List.mem_append_right _ (List.mem_cons_self ..)
  · rintro ⟨before, registration, handle, after, rfl, hother⟩ hreleased
    obtain ⟨a, ha, hfreed⟩ := List.mem_filterMap.1 hreleased
    rcases List.mem_append.1 ha with ha | ha
    · exact hother a (List.mem_append_left _ ha) (made?_of_released? hfreed)
    · rcases List.mem_cons.1 ha with rfl | ha
      · cases hfreed
      · exact hother a (List.mem_append_right _ ha) (made?_of_released? hfreed)

end Attempt

/-- The interfaces made at a site are numbered in the order they were made in. -/
def Site.Numbered (w : Site W α) : Prop :=
  w.made.map Interface.number = List.range w.made.length

theorem Site.Numbered.snoc {w w' : Site W α} {source : α} (h : w.Numbered)
    (hmade : w'.made = w.made ++ [⟨source, w.made.length⟩]) : w'.Numbered := by
  unfold Numbered at h ⊢
  rw [hmade, List.map_append, h, List.length_append, List.length_singleton, List.range_succ]
  rfl

/-- No interface is made twice. -/
theorem Site.Numbered.nodup {w : Site W α} (h : w.Numbered) : w.made.Nodup := by
  refine List.Nodup.of_map Interface.number ?_
  rw [h]
  exact List.nodup_range

/-- Some attempts, one behind another, lead from the site `w` to the site `w'`. -/
structure Leads (config : α → SourceConfig) (attempts : List (Attempt α)) (w w' : Site W α) :
    Prop where
  requests : w'.requests = w.requests ++ attempts.flatMap (Attempt.requests config)
  made : w'.made = w.made ++ attempts.filterMap Attempt.made?
  released : w'.released = w.released ++ attempts.filterMap Attempt.released?
  numbered : w.Numbered → w'.Numbered

namespace Leads

variable {config : α → SourceConfig} {attempts more : List (Attempt α)} {w w' w'' : Site W α}

theorem nil : Leads config [] w w := by
  refine ⟨?_, ?_, ?_, id⟩ <;> simp

theorem trans (h : Leads config attempts w w') (h' : Leads config more w' w'') :
    Leads config (attempts ++ more) w w'' := by
  refine ⟨?_, ?_, ?_, fun hw => h'.numbered (h.numbered hw)⟩
  · rw [h'.requests, h.requests, List.flatMap_append, List.append_assoc]
  · rw [h'.made, h.made, List.filterMap_append, List.append_assoc]
  · rw [h'.released, h.released, List.filterMap_append, List.append_assoc]

end Leads

/-- What some attempts leave behind in the tables of a core, from the world `c` to the world
`c'`. -/
structure Leaves (config : α → SourceConfig) (handlers : W → List (Registration α))
    (interfaces : W → List (Handle × Interface α)) (attempts : List (Attempt α)) (c c' : W) :
    Prop where
  handlers : handlers c' =
    (attempts.filterMap (Attempt.registration? config)).reverse ++ handlers c
  interfaces : interfaces c' = (attempts.filterMap Attempt.interface?).reverse ++ interfaces c

namespace Leaves

variable {config : α → SourceConfig} {handlers : W → List (Registration α)}
  {interfaces : W → List (Handle × Interface α)} {attempts more : List (Attempt α)} {c c' c'' : W}

theorem nil : Leaves config handlers interfaces [] c c := ⟨rfl, rfl⟩

theorem trans (h : Leaves config handlers interfaces attempts c c')
    (h' : Leaves config handlers interfaces more c' c'') :
    Leaves config handlers interfaces (attempts ++ more) c c'' := by
  constructor
  · rw [h'.handlers, h.handlers, List.filterMap_append, List.reverse_append, List.append_assoc]
  · rw [h'.interfaces, h.interfaces, List.filterMap_append, List.reverse_append,
      List.append_assoc]

end Leaves

namespace FirmwareCore

variable {C : FirmwareCore W α} {config : α → SourceConfig} {base : α → W → UInt64}

/-- **Every installation is one of the attempts.** -/
theorem installSource_attempt {source : α} {w w' : Site W α} {result : Except CallError Handle}
    (h : installSource (C.services base source) (config source) w = (w', result)) :
    ∃ a : Attempt α, a.source = source ∧ result = a.result ∧ Leads config [a] w w' ∧
      ∀ {handlers interfaces}, C.Lawful handlers interfaces →
        Leaves config handlers interfaces [a] w.core w'.core := by
  rcases hcr : C.register source (config source).handler w.core with ⟨c₁, registered⟩
  rcases installSource_cases (C.services base source) (config source) w with
    ⟨w₁, status, hr, heq⟩ | ⟨w₁, registration, w₂, interface, w₃, hr, ha, hrest⟩
  · rw [heq] at h
    cases h
    simp only [services, hcr, Prod.mk.injEq] at hr
    obtain ⟨rfl, rfl⟩ := hr
    refine ⟨.unregistered source status, rfl, rfl,
      ⟨rfl, (List.append_nil _).symm, (List.append_nil _).symm, id⟩, fun hC => ?_⟩
    exact ⟨(hC.register hcr).1, (hC.register hcr).2⟩
  · simp only [services, hcr, Prod.mk.injEq] at hr
    obtain ⟨rfl, rfl⟩ := hr
    simp only [services, Prod.mk.injEq] at ha
    obtain ⟨rfl, rfl⟩ := ha
    rcases hci : C.install descriptorProtocol ⟨source, w.made.length⟩ c₁ with ⟨c₂, installed⟩
    rcases hrest with ⟨handle, hi, heq⟩ | ⟨status, w₄, reply, hi, hu, heq⟩
    · rw [heq] at h
      cases h
      simp only [services, hci, Prod.mk.injEq] at hi
      obtain ⟨rfl, rfl⟩ := hi
      refine ⟨.installed registration ⟨source, w.made.length⟩ handle, rfl, rfl,
        ⟨List.append_assoc _ _ _, rfl, (List.append_nil _).symm, fun hw => hw.snoc rfl⟩,
        fun hC => ?_⟩
      · obtain ⟨hh, hi⟩ := hC.register hcr
        obtain ⟨hh', hi'⟩ := hC.install hci
        exact ⟨hh'.trans hh, by rw [← hi]; exact hi'⟩
    · simp only [services, hci, Prod.mk.injEq] at hi
      obtain ⟨rfl, rfl⟩ := hi
      rcases hcu : C.unregister registration c₂ with ⟨c₃, answered⟩
      simp only [services, hcu, Prod.mk.injEq] at hu
      obtain ⟨rfl, rfl⟩ := hu
      rw [heq] at h
      refine ⟨.takenBack registration ⟨source, w.made.length⟩ status answered, rfl, ?_, ?_, ?_⟩
      · cases h
        rfl
      · cases answered <;> cases h <;>
          exact ⟨by simp [Attempt.requests, services], rfl, rfl, fun hw => hw.snoc rfl⟩
      · intro handlers interfaces hC
        obtain ⟨hh, hi⟩ := hC.register hcr
        obtain ⟨hh', hi'⟩ := hC.install hci
        obtain ⟨hh'', hi''⟩ := hC.unregister hcu
        rw [hh', hh] at hh''
        rw [hi', hi] at hi''
        cases answered with
        | error failure =>
          cases h
          exact ⟨hh'', hi''⟩
        | ok =>
          cases h
          refine ⟨hh''.trans ?_, hi''⟩
          simp [Attempt.registration?]

/-- Installations one after another are attempts one behind another. -/
theorem installAll_attempts {sources : List α} {w w' : Site W α}
    {results : List (Except CallError Handle)}
    (h : C.installAll config base sources w = (w', results)) :
    ∃ attempts : List (Attempt α), attempts.map Attempt.source = sources ∧
      results = attempts.map Attempt.result ∧ Leads config attempts w w' ∧
      ∀ {handlers interfaces}, C.Lawful handlers interfaces →
        Leaves config handlers interfaces attempts w.core w'.core := by
  induction sources generalizing w w' results with
  | nil =>
    cases h
    exact ⟨[], rfl, rfl, .nil, fun _ => .nil⟩
  | cons source rest ih =>
    rcases hone : installSource (C.services base source) (config source) w with ⟨w₁, result⟩
    rcases hrest : C.installAll config base rest w₁ with ⟨w₂, results'⟩
    simp only [installAll, hone, hrest, Prod.mk.injEq] at h
    obtain ⟨rfl, rfl⟩ := h
    obtain ⟨a, rfl, rfl, hleads, hleaves⟩ := installSource_attempt hone
    obtain ⟨attempts, rfl, rfl, hleads', hleaves'⟩ := ih hrest
    exact ⟨a :: attempts, rfl, rfl, hleads.trans hleads',
      fun hC => (hleaves hC).trans (hleaves' hC)⟩

end FirmwareCore

/-- **Installations leave nothing behind** but what was installed, whatever a firmware core answers
to the requests for any sources, one after another. Each installation makes the requests of one
`Attempt` and no others, and answers the handle of the interface, or else the status of the step
that failed. The interfaces that it could not install are freed, each of them once, and any other
belongs to the one installation that succeeded with it. Where requests that fail change nothing,
the core has been left, on top of what it had, with the handlers and interfaces of the
installations that succeeded, and with the handlers that it did not take back; and whoever has an
interface has a handler. The installation changes nothing of the source itself. -/
theorem installations_leave_nothing_behind (C : FirmwareCore W α) (config : α → SourceConfig)
    (base : α → W → UInt64) (sources : List α) (core : W) {w : Site W α}
    {results : List (Except CallError Handle)}
    (h : C.installAll config base sources ⟨core, [], [], [], []⟩ = (w, results)) :
    (∃ attempts : List (Attempt α), attempts.map Attempt.source = sources ∧
      results = attempts.map Attempt.result ∧
      w.requests = attempts.flatMap (Attempt.requests config) ∧
      w.made = attempts.filterMap Attempt.made? ∧ w.made.Nodup ∧
      w.released = attempts.filterMap Attempt.released? ∧ w.released.Nodup ∧
      (∀ i ∈ w.made, i ∉ w.released ↔ ∃ before registration handle after,
        attempts = before ++ .installed registration i handle :: after ∧
          ∀ a ∈ before ++ after, a.made? ≠ some i) ∧
      ∀ {handlers interfaces}, C.Lawful handlers interfaces →
        handlers w.core =
          (attempts.filterMap (Attempt.registration? config)).reverse ++ handlers core ∧
        interfaces w.core = (attempts.filterMap Attempt.interface?).reverse ++ interfaces core ∧
        ∀ i ∈ w.made, i ∉ w.released → ∃ registration handle,
          ⟨i.source, (config i.source).handler, registration⟩ ∈ handlers w.core ∧
            (handle, i) ∈ interfaces w.core) ∧
    ∀ {σ : Type} (S : Scenario σ) (replies : CoreReplies) (m : State σ), ∃ core messages,
      (S.step (.install replies [] [] []) m).1 =
        ({ m with core := core } : State σ).say messages := by
  refine ⟨?_, fun S replies m => S.step_install replies m⟩
  obtain ⟨attempts, hsources, hresults, hleads, hleaves⟩ := FirmwareCore.installAll_attempts h
  obtain ⟨hrequests, hmade, hreleased, hnumbered⟩ := hleads
  have hnodup : w.made.Nodup := (hnumbered rfl).nodup
  rw [List.nil_append] at hrequests hmade hreleased
  rw [hmade] at hnodup ⊢
  rw [hreleased]
  refine ⟨attempts, hsources, hresults, hrequests, rfl, hnodup, rfl, ?_,
    fun i hi => Attempt.not_mem_released_iff hnodup hi, fun hC => ?_⟩
  · exact hnodup.sublist (Attempt.released_sublist attempts)
  · obtain ⟨hhandlers, hinterfaces⟩ := hleaves hC
    refine ⟨hhandlers, hinterfaces, fun i hi hkept => ?_⟩
    obtain ⟨before, registration, handle, after, rfl, -⟩ :=
      (Attempt.not_mem_released_iff hnodup hi).1 hkept
    refine ⟨registration, handle, ?_, ?_⟩
    · rw [hhandlers]
      simp [Attempt.registration?]
    · rw [hinterfaces]
      simp [Attempt.interface?]

/-! ## A stubborn core -/

namespace Sample

/-- What a core remembers. -/
structure Table where
  handlers : List (Registration Nat)
  interfaces : List (Handle × Interface Nat)

/-- A core that registers all handlers but those of source 0 under one and the same handle, installs
no interface of a source with an odd number, and takes no registration back while it has two. -/
def stubbornCore : FirmwareCore Table Nat where
  register source guid t :=
    if source = 0 then (t, .error .outOfResources)
    else ({ t with handlers := ⟨source, guid, 0x10⟩ :: t.handlers }, .ok 0x10)
  install _ interface t :=
    if interface.source % 2 = 1 then (t, .error .invalidParameter)
    else ({ t with interfaces := (0x20, interface) :: t.interfaces }, .ok 0x20)
  unregister registration t :=
    if t.handlers.length = 2 then (t, .error .notReady)
    else ({ t with handlers := t.handlers.eraseP fun r => r.handle == registration }, .ok ())

theorem stubbornCore_lawful : stubbornCore.Lawful Table.handlers Table.interfaces where
  register h := by
    simp only [stubbornCore] at h
    split at h <;> cases h <;> exact ⟨rfl, rfl⟩
  install h := by
    simp only [stubbornCore] at h
    split at h <;> cases h <;> exact ⟨rfl, rfl⟩
  unregister h := by
    simp only [stubbornCore] at h
    split at h <;> cases h <;> exact ⟨rfl, rfl⟩

/-- The configuration of a source by its number. -/
def configOf (source : Nat) : SourceConfig :=
  ⟨UInt16.ofNat source, 0x80, descriptorProtocol, 0x1000, 128⟩

/-- The sources 1, 0, 2 and 3 are installed with the stubborn core. -/
def installations : Site Table Nat × List (Except CallError Handle) :=
  stubbornCore.installAll configOf (fun _ _ => 0x1000) [1, 0, 2, 3] ⟨⟨[], []⟩, [], [], [], []⟩

end Sample

/-- The stubborn core has no handler of source 1 any more, since it was taken back, and it has both
a handler and an interface of source 2. -/
theorem installations_leave_nothing_behind_sample :
    Sample.installations.1.core.handlers.map Registration.source = [3, 2] ∧
    Sample.installations.1.released.Nodup ∧
    ∃ registration handle,
      ⟨2, descriptorProtocol, registration⟩ ∈ Sample.installations.1.core.handlers ∧
        (handle, ⟨2, 1⟩) ∈ Sample.installations.1.core.interfaces := by
  obtain ⟨⟨attempts, -, -, -, -, -, -, hfreed, -, hcore⟩, -⟩ :=
    installations_leave_nothing_behind Sample.stubbornCore Sample.configOf (fun _ _ => 0x1000)
      [1, 0, 2, 3] ⟨[], []⟩ (rfl : _ = Sample.installations)
  obtain ⟨-, -, hboth⟩ := hcore Sample.stubbornCore_lawful
  exact ⟨by decide +kernel, hfreed, hboth ⟨2, 1⟩ (by decide +kernel) (by decide +kernel)⟩

end FirmwareFirst
