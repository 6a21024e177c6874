import JavaStudio.Proofs.Event
import JavaStudio.Proofs.Studio.Runs
import JavaStudio.Studio.Methods
import Mathlib.Logic.Function.Basic

/-!
# Methods and the events that they are for

The studio finds the handler of a listener by its name, and handlers for events of different names have
different names. So an event comes to the methods that are for events of its name and to no others.

* `Methods.receiver_define`: a new method receives the events that it is named after, and what the other
  events come to stays as it was.
* `Methods.SameForOwn.handler`: methods that do the same with the events that they are for are not told
  apart by any event.
* `handlerOf_recentFiles`: the handlers of the keeper of the recent files are its methods as well.
* `handlers_apart`: names of events are told from names of handlers, and no announcement, no question and
  no other run of a studio shows what a method does with an event that it is not for.
-/

namespace JavaStudio

open Studio

variable {S : Type}

/-- A cast whose listeners have other methods. -/
def Cast.withMethods (k : Cast S) (methods : Methods S) : Cast S := { k with handler := methods.handler }

namespace Methods

variable {methods methods' : Methods S} {method method' : Event → Script S Bool} {n m : Nat}
  {a b name other : Text}

/-- The methods after a listener was given one of some name. -/
def define (methods : Methods S) (n : Nat) (name : Text) (method : Event → Script S Bool) : Methods S :=
  Function.update methods n (Function.update (methods n) name (some method))

theorem define_self : methods.define n name method n name = some method := by
  rw [define, Function.update_self, Function.update_self]

theorem define_of_ne (h : ¬ (m = n ∧ other = name)) :
    methods.define n name method m other = methods m other := by
  unfold define
  by_cases hm : m = n
  · subst hm
    rw [Function.update_self, Function.update_of_ne fun same => h ⟨rfl, same⟩]
  · rw [Function.update_of_ne hm]

theorem receiver_define (ha : IsClassName a) (hb : IsClassName b) :
    (methods.define n (handlerName a) method).receiver m b =
      if m = n ∧ b = a then some method else methods.receiver m b := by
  unfold receiver
  split
  · next same =>
    obtain ⟨rfl, rfl⟩ := same
    exact define_self
  · next differ => exact define_of_ne (by rwa [handlerName_inj hb ha])

/-- The methods do the same with the events that they are for. What the handler for events of some name
does with events of another is left open. -/
def SameForOwn (methods methods' : Methods S) : Prop :=
  ∀ n name e, (∀ a, IsClassName a → name = handlerName a → e.kind.name.toList = a) →
    (methods n name).map (fun method => method e) = (methods' n name).map fun method => method e

namespace SameForOwn

theorem refl (methods : Methods S) : methods.SameForOwn methods := fun _ _ _ _ => rfl

theorem define (h : methods.SameForOwn methods') (ha : IsClassName a)
    (same : ∀ e, e.kind.name.toList = a → method e = method' e) :
    (methods.define n (handlerName a) method).SameForOwn
      (methods'.define n (handlerName a) method') := by
  intro m name e own
  by_cases here : m = n ∧ name = handlerName a
  · obtain ⟨rfl, rfl⟩ := here
    rw [define_self, define_self, Option.map_some, Option.map_some, same e (own a ha rfl)]
  · rw [define_of_ne here, define_of_ne here]
    exact h m name e own

theorem handler (h : methods.SameForOwn methods') : methods.handler = methods'.handler := by
  funext n e
  refine h n (handlerName e.kind.name.toList) e fun a ha found => ?_
  exact (handlerName_inj e.kind.isClassName ha).1 found

theorem withMethods (h : methods.SameForOwn methods') (k : Cast S) :
    k.withMethods methods = k.withMethods methods' := by
  rw [Cast.withMethods, Cast.withMethods, h.handler]

end SameForOwn

end Methods

/-! ## The keeper of the recent files -/

/-- The names of the methods that a complete listener has. -/
def completeMethods : List String :=
  ["on_document_created", "on_document_opened", "on_document_closed", "on_document_saved",
    "on_save_requested", "on_compile_started", "on_compile_ended", "on_console_reset",
    "on_interactions_reset", "on_abandon_query"]

theorem isProper_iff {k : EventKind} : k.isProper = true ↔ k.handler ∈ completeMethods := by
  cases k <;> decide

/-- The methods of the keeper of the recent files by their names. It has two of its own, and does nothing
in the others that a complete listener has, but to consent when it is asked about abandoning. -/
def keeperMethod? (name : String) : Option (Event → Act (Studio S) Bool) :=
  if name = "on_document_opened" ∨ name = "on_document_saved" then
    some fun e => do
      rememberFile e
      return false
  else if name = "on_abandon_query" then some fun _ => return true
  else if name ∈ completeMethods then some fun _ => return false
  else none

theorem handlerOf_recentFiles (c : Collaborators S) (e : Event) :
    handlerOf c .recentFiles e = (keeperMethod? e.kind.handler).map fun method => method e := by
  obtain ⟨kind, d⟩ := e
  have opened : "on_document_opened" = EventKind.documentOpened.handler := by decide
  have saved : "on_document_saved" = EventKind.documentSaved.handler := by decide
  have abandon : "on_abandon_query" = EventKind.abandonQuery.handler := by decide
  simp only [handlerOf, keeperMethod?, opened, saved, abandon, EventKind.handler_inj, ← isProper_iff]
  cases kind <;> rfl

/-! ## Delivery -/

theorem handlerOf_outside (k : Cast S) (methods : Methods S) (patience depth n : Nat) (e : Event) :
    handlerOf ((k.withMethods methods).collaborators patience (depth + 1)) (.outside n) e =
      (methods.receiver n e.kind.name.toList).map fun method =>
        (method e).run ((k.withMethods methods).collaborators patience depth) :=
  Option.map_map _ _ _

/-- Events come to the methods that are named after them, and to no others. -/
structure DeliversByName (S : Type) : Prop where
  outside : ∀ (k : Cast S) (methods : Methods S) patience depth n e,
    handlerOf ((k.withMethods methods).collaborators patience (depth + 1)) (.outside n) e =
      (methods.receiver n e.kind.name.toList).map fun method =>
        (method e).run ((k.withMethods methods).collaborators patience depth)
  keeper : ∀ (c : Collaborators S) e,
    handlerOf c .recentFiles e = (keeperMethod? e.kind.handler).map fun method => method e
  receiver : ∀ (methods : Methods S) n m method a b, IsClassName a → IsClassName b →
    (methods.define n (handlerName a) method).receiver m b =
      if m = n ∧ b = a then some method else methods.receiver m b
  announced : ∀ (k : Cast S) (methods methods' : Methods S), methods.SameForOwn methods' →
    ∀ patience depth e, announce ((k.withMethods methods).collaborators patience depth) e =
      announce ((k.withMethods methods').collaborators patience depth) e
  asked : ∀ (k : Cast S) (methods methods' : Methods S), methods.SameForOwn methods' →
    ∀ patience depth e, ask ((k.withMethods methods).collaborators patience depth) e =
      ask ((k.withMethods methods').collaborators patience depth) e
  performed : ∀ (k : Cast S) (methods methods' : Methods S), methods.SameForOwn methods' →
    ∀ patience depth command, (k.withMethods methods).perform patience depth command =
      (k.withMethods methods').perform patience depth command

/-- The name of a handler tells the name of its events, and what a method would do with an event of
another name makes no difference to any run. -/
theorem handlers_apart (S : Type) :
    (∀ a, IsClassName a → eventName? (handlerName a) = some a) ∧
    (∀ a b, IsClassName a → IsClassName b → (handlerName a = handlerName b ↔ a = b)) ∧
    (∀ kind kind' : EventKind, kind.handler = kind'.handler ↔ kind = kind') ∧
    DeliversByName S := by
  refine ⟨fun a => eventName?_handlerName, fun a b => handlerName_inj, fun _ _ => ?_, ?_⟩
  · exact EventKind.handler_inj
  · exact {
      outside := handlerOf_outside
      keeper := handlerOf_recentFiles
      receiver := fun _ _ _ _ _ _ => Methods.receiver_define
      announced := fun k _ _ same _ _ _ => by rw [same.withMethods k]
      asked := fun k _ _ same _ _ _ => by rw [same.withMethods k]
      performed := fun k _ _ same _ _ _ => by rw [same.withMethods k] }

/-- A listener that is told of the end of a compile, and fails if anything else comes to the method for
that. -/
def Methods.strict : Methods Unit :=
  define (fun _ _ => none) 0 (handlerName "CompileEnded".toList) fun e =>
    if e.kind = .compileEnded then .done true else .fail (.runtime "stray")

/-- A listener that takes whatever comes to its method for the end of a compile. -/
def Methods.lenient : Methods Unit :=
  define (fun _ _ => none) 0 (handlerName "CompileEnded".toList) fun _ => .done true

/-- Names that differ in their capitals only have different handlers, and nobody can tell the strict
listener from the lenient one. -/
theorem handlers_apart_initials :
    IsClassName "HTTPServer2".toList ∧ IsClassName "HttpServer2".toList ∧
    eventName? (handlerName "HTTPServer2".toList) = some "HTTPServer2".toList ∧
    handlerName "HTTPServer2".toList ≠ handlerName "HttpServer2".toList ∧
    Methods.strict ≠ Methods.lenient ∧ Methods.strict.SameForOwn Methods.lenient ∧
    announce ((Cast.idle.withMethods .strict).collaborators 1 2) ⟨.compileStarted, none⟩ =
      announce ((Cast.idle.withMethods .lenient).collaborators 1 2) ⟨.compileStarted, none⟩ := by
  have ha : IsClassName "HTTPServer2".toList := by decide
  have hb : IsClassName "HttpServer2".toList := by decide
  obtain ⟨told, apart, -, delivers⟩ := handlers_apart Unit
  have differ : Methods.strict ≠ Methods.lenient := by
    intro same
    have here := congrFun (congrFun same 0) (handlerName "CompileEnded".toList)
    rw [Methods.strict, Methods.lenient, Methods.define_self, Methods.define_self] at here
    have stray := congrFun (Option.some.inj here) ⟨.compileStarted, none⟩
    cases stray
  have own : Methods.strict.SameForOwn Methods.lenient := by
    refine (Methods.SameForOwn.refl _).define (by decide) fun e he => ?_
    have kind : e.kind = .compileEnded := EventKind.name_inj.1 (String.toList_inj.1 he)
    rw [if_pos kind]
  exact ⟨ha, hb, told _ ha, mt (apart _ _ ha hb).1 (by decide), differ, own,
    delivers.announced Cast.idle _ _ own 1 2 _⟩

end JavaStudio
