import Blink.Inspector.DOMDebuggerAgent
import Mathlib.Data.String.Basic

/-!
Event-listener and instrumentation breakpoints, filed under `EventListenerBreakpointKey`. A target
holding `"$$"` files a breakpoint under another event's key; without `'$'` in event names a native
event pauses exactly when the latest command naming its breakpoint set it.
-/

namespace BlinkInspector

/-! ### Breakpoints as the protocol names them -/

inductive EventCategory
  | listener
  | instrumentation
  deriving DecidableEq, Repr

def EventCategory.categoryType : EventCategory → String
  | .listener => listenerEventCategoryType
  | .instrumentation => instrumentationEventCategoryType

structure EventBreakpoint where
  category : EventCategory
  eventName : String
  target : Option String
  deriving DecidableEq, Repr

/-- The target a breakpoint is filed under: an absent, empty or `"*"` target is the wildcard, any
other is lowercased. -/
def normalizeTarget (targetName : Option String) : Option String :=
  let target := targetName.getD ""
  if target.isEmpty || target == "*" then none else some target.toLower

inductive EventBreakpointCommand
  | setEventListenerBreakpoint (eventName : String) (targetName : Option String)
  | removeEventListenerBreakpoint (eventName : String) (targetName : Option String)
  | setInstrumentationBreakpoint (eventName : String)
  | removeInstrumentationBreakpoint (eventName : String)

namespace EventBreakpointCommand

def run (agent : InspectorDOMDebuggerAgent) : EventBreakpointCommand → InspectorDOMDebuggerAgent
  | setEventListenerBreakpoint eventName targetName =>
      (agent.setEventListenerBreakpoint eventName targetName).1
  | removeEventListenerBreakpoint eventName targetName =>
      (agent.removeEventListenerBreakpoint eventName targetName).1
  | setInstrumentationBreakpoint eventName => (agent.setInstrumentationBreakpoint eventName).1
  | removeInstrumentationBreakpoint eventName => (agent.removeInstrumentationBreakpoint eventName).1

def breakpoint : EventBreakpointCommand → EventBreakpoint
  | setEventListenerBreakpoint eventName targetName
  | removeEventListenerBreakpoint eventName targetName =>
      ⟨.listener, eventName, normalizeTarget targetName⟩
  | setInstrumentationBreakpoint eventName
  | removeInstrumentationBreakpoint eventName => ⟨.instrumentation, eventName, none⟩

def isSet : EventBreakpointCommand → Bool
  | setEventListenerBreakpoint .. | setInstrumentationBreakpoint _ => true
  | removeEventListenerBreakpoint .. | removeInstrumentationBreakpoint _ => false

end EventBreakpointCommand

def runCommands (commands : List EventBreakpointCommand) : InspectorDOMDebuggerAgent :=
  commands.foldl EventBreakpointCommand.run InspectorDOMDebuggerAgent.init

/-- A breakpoint is live when the latest command naming it sets it. -/
def isLive (commands : List EventBreakpointCommand) (b : EventBreakpoint) : Bool :=
  match (commands.filter (·.breakpoint == b)).getLast? with
  | some command => command.isSet
  | none => false

def expectedPause (commands : List EventBreakpointCommand) (eventName : String)
    (targetName : Option String) : Bool :=
  isLive commands ⟨if targetName.isSome then .listener else .instrumentation, eventName, none⟩ ||
    (targetName.isSome && isLive commands ⟨.listener, eventName, normalizeTarget targetName⟩)

/-! ### The keys -/

namespace EventBreakpoint

def key (b : EventBreakpoint) : String :=
  b.category.categoryType ++ b.eventName ++ "$$" ++ b.target.getD "*"

theorem key_eq (category : EventCategory) (eventName : String) (targetName : Option String) :
    eventListenerBreakpointKey (category.categoryType ++ eventName) (targetName.getD "") =
      (⟨category, eventName, normalizeTarget targetName⟩ : EventBreakpoint).key := by
  unfold eventListenerBreakpointKey normalizeTarget key
  split <;> simp_all

theorem eq_of_append_cons_eq {α : Type} {a : α} :
    ∀ {l₁ l₂ r₁ r₂ : List α}, a ∉ l₁ → a ∉ l₂ → l₁ ++ a :: r₁ = l₂ ++ a :: r₂ → l₁ = l₂ ∧ r₁ = r₂
  | [], [], _, _, _, _, split => ⟨rfl, (List.cons.inj split).2⟩
  | [], _ :: _, _, _, _, outside, split => by simp_all
  | _ :: _, [], _, _, outside, _, split => by simp_all
  | b :: l₁, c :: l₂, _, _, outside₁, outside₂, split => by
      obtain ⟨rfl, rest⟩ := List.cons.inj split
      obtain ⟨rfl, rfl⟩ := eq_of_append_cons_eq (List.not_mem_of_not_mem_cons outside₁)
        (List.not_mem_of_not_mem_cons outside₂) rest
      exact ⟨rfl, rfl⟩

theorem not_mem_categoryType (category : EventCategory) : '$' ∉ category.categoryType.data := by
  cases category <;> decide

/-- Over event names without `'$'` the key is injective on breakpoints whose target is not the
literal `"*"`: the first `'$'` ends the event name. -/
theorem key_injective {b₁ b₂ : EventBreakpoint} (plain₁ : '$' ∉ b₁.eventName.data)
    (plain₂ : '$' ∉ b₂.eventName.data) (star₁ : b₁.target ≠ some "*")
    (star₂ : b₂.target ≠ some "*") (same : b₁.key = b₂.key) : b₁ = b₂ := by
  obtain ⟨category₁, eventName₁, target₁⟩ := b₁
  obtain ⟨category₂, eventName₂, target₂⟩ := b₂
  have keys : (category₁.categoryType.data ++ eventName₁.data) ++ '$' :: '$' :: (target₁.getD "*").data =
      (category₂.categoryType.data ++ eventName₂.data) ++ '$' :: '$' :: (target₂.getD "*").data := by
    simpa [key] using congrArg String.data same
  obtain ⟨names, targets⟩ := eq_of_append_cons_eq (by simp_all [not_mem_categoryType])
    (by simp_all [not_mem_categoryType]) keys
  have categories : category₁ = category₂ := by
    have heads := congrArg List.head? names
    rw [List.head?_append_of_ne_nil _ (by cases category₁ <;> decide),
      List.head?_append_of_ne_nil _ (by cases category₂ <;> decide)] at heads
    cases category₁ <;> cases category₂ <;> first | rfl | exact absurd heads (by decide)
  subst categories
  have eventNames : eventName₁ = eventName₂ := String.ext (List.append_cancel_left names)
  have filed : target₁.getD "*" = target₂.getD "*" := String.ext (List.cons.inj targets).2
  subst eventNames
  congr
  cases target₁ <;> cases target₂ <;> simp_all [eq_comm]

theorem eq_star_of_toLower {s : String} (lowered : s.toLower = "*") : s = "*" := by
  have star {c : Char} (h : c.toLower = '*') : c = '*' := by
    unfold Char.toLower at h
    simp only at h
    split at h
    · have valid : (c.toNat + 32).isValidChar := Or.inl (by omega)
      have shifted := congrArg Char.toNat h
      rw [Char.ofNat, dif_pos valid] at shifted
      change c.toNat + 32 = 42 at shifted
      omega
    · exact h
  rw [String.toLower, String.map_eq, String.ext_iff] at lowered
  change s.data.map Char.toLower = ['*'] at lowered
  apply String.ext
  rcases data : s.data with _ | ⟨c, _ | ⟨d, rest⟩⟩ <;> rw [data] at lowered
  · simp at lowered
  · rw [star (List.cons.inj lowered).1]
  · simp at lowered

end EventBreakpoint

@[simp] theorem normalizeTarget_none : normalizeTarget none = none := rfl

theorem normalizeTarget_ne_star (targetName : Option String) : normalizeTarget targetName ≠ some "*" := by
  unfold normalizeTarget
  dsimp only
  split
  · simp
  · next plain =>
      intro lowered
      have := EventBreakpoint.eq_star_of_toLower (Option.some.inj lowered)
      simp [this] at plain

theorem EventBreakpointCommand.target_ne_star (command : EventBreakpointCommand) :
    command.breakpoint.target ≠ some "*" := by
  cases command <;> simp [breakpoint, normalizeTarget_ne_star]

/-! ### The agent's breakpoints and the live ones -/

def InspectorDOMDebuggerAgent.files (agent : InspectorDOMDebuggerAgent) (b : EventBreakpoint) :
    Bool :=
  (agent.eventListenerBreakpoints.lookup b.key).getD false

theorem isSome_preparePauseOnNativeEventData (agent : InspectorDOMDebuggerAgent)
    (eventName : String) (targetName : Option String) :
    (agent.preparePauseOnNativeEventData eventName targetName).isSome =
      (agent.files ⟨if targetName.isSome then .listener else .instrumentation, eventName, none⟩ ||
        (targetName.isSome && agent.files ⟨.listener, eventName, normalizeTarget targetName⟩)) := by
  have wildcard category : eventListenerBreakpointKey (category.categoryType ++ eventName) "*" =
      (⟨category, eventName, none⟩ : EventBreakpoint).key := by
    simpa [normalizeTarget] using EventBreakpoint.key_eq category eventName (some "*")
  cases targetName with
  | none =>
      have filed := wildcard .instrumentation
      simp only [EventCategory.categoryType] at filed
      simp [InspectorDOMDebuggerAgent.preparePauseOnNativeEventData,
        InspectorDOMDebuggerAgent.files]
      rw [filed]
      split <;> simp_all
  | some target =>
      have filed := wildcard .listener
      have targetFiled := EventBreakpoint.key_eq .listener eventName (some target)
      simp only [EventCategory.categoryType, Option.getD_some] at filed targetFiled
      simp [InspectorDOMDebuggerAgent.preparePauseOnNativeEventData,
        InspectorDOMDebuggerAgent.files]
      rw [filed, targetFiled]
      cases (agent.eventListenerBreakpoints.lookup
        (EventBreakpoint.key ⟨.listener, eventName, none⟩)).getD false <;>
      cases (agent.eventListenerBreakpoints.lookup
        (EventBreakpoint.key ⟨.listener, eventName, normalizeTarget (some target)⟩)).getD false <;> simp

theorem isEmpty_categoryType_append (category : EventCategory) (eventName : String) :
    (category.categoryType ++ eventName).isEmpty = false := by
  rw [Bool.eq_false_iff, ne_eq, String.isEmpty_iff]
  intro empty
  have lengths := congrArg String.length empty
  have named : category.categoryType.length ≠ 0 := by cases category <;> decide
  simp at lengths
  exact named lengths.1

theorem eventListenerBreakpoints_run (agent : InspectorDOMDebuggerAgent)
    (command : EventBreakpointCommand) :
    (command.run agent).eventListenerBreakpoints =
      if command.isSet then agent.eventListenerBreakpoints.insert command.breakpoint.key true
      else agent.eventListenerBreakpoints.erase command.breakpoint.key := by
  cases command with
  | setEventListenerBreakpoint eventName targetName
  | removeEventListenerBreakpoint eventName targetName =>
      have empty := isEmpty_categoryType_append .listener eventName
      have filed := EventBreakpoint.key_eq .listener eventName targetName
      simp only [EventCategory.categoryType] at empty filed
      simp [EventBreakpointCommand.run, InspectorDOMDebuggerAgent.setEventListenerBreakpoint,
        InspectorDOMDebuggerAgent.removeEventListenerBreakpoint,
        InspectorDOMDebuggerAgent.setBreakpoint, InspectorDOMDebuggerAgent.removeBreakpoint, empty,
        EventBreakpointCommand.isSet, EventBreakpointCommand.breakpoint]
      rw [filed]
  | setInstrumentationBreakpoint eventName
  | removeInstrumentationBreakpoint eventName =>
      have empty := isEmpty_categoryType_append .instrumentation eventName
      have filed := EventBreakpoint.key_eq .instrumentation eventName none
      simp only [EventCategory.categoryType, Option.getD_none, normalizeTarget_none] at empty filed
      simp [EventBreakpointCommand.run, InspectorDOMDebuggerAgent.setInstrumentationBreakpoint,
        InspectorDOMDebuggerAgent.removeInstrumentationBreakpoint,
        InspectorDOMDebuggerAgent.setBreakpoint, InspectorDOMDebuggerAgent.removeBreakpoint, empty,
        EventBreakpointCommand.isSet, EventBreakpointCommand.breakpoint]
      rw [filed]

theorem isLive_append_singleton (commands : List EventBreakpointCommand)
    (command : EventBreakpointCommand) (b : EventBreakpoint) :
    isLive (commands ++ [command]) b =
      if command.breakpoint = b then command.isSet else isLive commands b := by
  unfold isLive
  by_cases same : command.breakpoint = b <;> simp [List.filter_append, same]

theorem files_run (agent : InspectorDOMDebuggerAgent) {command : EventBreakpointCommand}
    {b : EventBreakpoint} (plain : '$' ∉ command.breakpoint.eventName.data)
    (plainB : '$' ∉ b.eventName.data) (star : b.target ≠ some "*") :
    (command.run agent).files b = if command.breakpoint = b then command.isSet else agent.files b := by
  rw [InspectorDOMDebuggerAgent.files, eventListenerBreakpoints_run]
  by_cases same : command.breakpoint = b
  · subst same
    cases command.isSet <;> simp [AList.lookup_insert, AList.lookup_erase]
  · have apart : b.key ≠ command.breakpoint.key := fun keys =>
      same (EventBreakpoint.key_injective plain plainB command.target_ne_star star keys.symm)
    rw [if_neg same, InspectorDOMDebuggerAgent.files]
    split
    · rw [AList.lookup_insert_ne apart]
    · rw [AList.lookup_erase_ne apart]

section Run

def FilesLive (commands : List EventBreakpointCommand) (agent : InspectorDOMDebuggerAgent) : Prop :=
  ∀ b : EventBreakpoint, '$' ∉ b.eventName.data → b.target ≠ some "*" →
    agent.files b = isLive commands b

theorem filesLive_init : FilesLive [] InspectorDOMDebuggerAgent.init := fun _ _ _ => rfl

theorem FilesLive.run {commands : List EventBreakpointCommand} {agent : InspectorDOMDebuggerAgent}
    (live : FilesLive commands agent) {command : EventBreakpointCommand}
    (plain : '$' ∉ command.breakpoint.eventName.data) :
    FilesLive (commands ++ [command]) (command.run agent) := by
  intro b plainB star
  rw [files_run agent plain plainB star, isLive_append_singleton, live b plainB star]

theorem filesLive_foldl : ∀ (commands prior : List EventBreakpointCommand)
    (agent : InspectorDOMDebuggerAgent), FilesLive prior agent →
    (∀ command ∈ commands, '$' ∉ command.breakpoint.eventName.data) →
    FilesLive (prior ++ commands) (commands.foldl EventBreakpointCommand.run agent)
  | [], prior, agent, live, _ => by simpa using live
  | command :: commands, prior, agent, live, plain => by
      rw [List.foldl_cons, ← List.singleton_append, ← List.append_assoc]
      exact filesLive_foldl commands _ _ (live.run (plain command (List.mem_cons_self _ _)))
        fun c member => plain c (List.mem_cons_of_mem _ member)

end Run

/-- A listener breakpoint on the event `a` with the target `b$$c` is filed under the key of the
event `a$$b` with the target `c`, and that event pauses although no command named it. -/
theorem dollar_target_pauses_other_event :
    ((runCommands [.setEventListenerBreakpoint "a" (some "b$$c")]).preparePauseOnNativeEventData
        "a$$b" (some "c")).isSome = true ∧
      expectedPause [.setEventListenerBreakpoint "a" (some "b$$c")] "a$$b" (some "c") = false := by
  have lowered (s : String) (plain : s.data.map Char.toLower = s.data) :
      normalizeTarget (some s) = if s.isEmpty || s == "*" then none else some s := by
    rw [normalizeTarget, Option.getD_some, String.toLower, String.map_eq, plain]
  refine ⟨?_, by decide⟩
  rw [isSome_preparePauseOnNativeEventData]
  simp only [runCommands, List.foldl, InspectorDOMDebuggerAgent.files, eventListenerBreakpoints_run,
    EventBreakpointCommand.breakpoint, EventBreakpointCommand.isSet]
  rw [lowered "b$$c" (by decide), lowered "c" (by decide)]
  decide

/-- When no event name holds `'$'`, a native event pauses exactly when the latest command naming
its wildcard breakpoint, or the breakpoint of its target, set it. -/
theorem preparePause_iff_live (commands : List EventBreakpointCommand) (eventName : String)
    (targetName : Option String)
    (plain : ∀ command ∈ commands, '$' ∉ command.breakpoint.eventName.data)
    (plainEvent : '$' ∉ eventName.data) :
    ((runCommands commands).preparePauseOnNativeEventData eventName targetName).isSome =
      expectedPause commands eventName targetName := by
  have live := filesLive_foldl commands [] _ filesLive_init plain
  rw [List.nil_append] at live
  rw [isSome_preparePauseOnNativeEventData, expectedPause, runCommands,
    live _ plainEvent (by simp), live _ plainEvent (normalizeTarget_ne_star _)]

/-- A listener breakpoint on `click` for the target `Button`, and one on every `keydown` that is
then removed: a click on a `BUTTON` pauses as its breakpoint is live, a `keydown` on an `INPUT`
no longer pauses. -/
theorem removed_keydown_wildcard_no_longer_pauses :
    let commands : List EventBreakpointCommand := [.setEventListenerBreakpoint "click" (some "Button"),
      .setEventListenerBreakpoint "keydown" none, .removeEventListenerBreakpoint "keydown" none]
    (∀ command ∈ commands, '$' ∉ command.breakpoint.eventName.data) ∧
      ((runCommands commands).preparePauseOnNativeEventData "click" (some "BUTTON")).isSome =
        expectedPause commands "click" (some "BUTTON") ∧
      ((runCommands commands).preparePauseOnNativeEventData "keydown" (some "INPUT")).isSome =
        expectedPause commands "keydown" (some "INPUT") ∧
      expectedPause commands "keydown" (some "INPUT") = false := by
  intro commands
  have plain : ∀ command ∈ commands, '$' ∉ command.breakpoint.eventName.data := by decide
  exact ⟨plain, preparePause_iff_live _ _ _ plain (by decide),
    preparePause_iff_live _ _ _ plain (by decide), by decide⟩

end BlinkInspector
