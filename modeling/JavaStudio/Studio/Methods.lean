import JavaStudio.Studio.Cast

/-!
# Methods

A listener from outside is known to the studio by its methods alone, and these are found by their
names. It hears of an event through the method that is named after the event, and without one not at
all.
-/

namespace JavaStudio

variable {S : Type}

/-- The methods of the listeners from outside, by the number of the listener and the name of the
method. -/
abbrev Methods (S : Type) := Nat → Text → Option (Event → Script S Bool)

namespace Methods

/-- The method of a listener that receives events of some name, if it has one. -/
def receiver (methods : Methods S) (n : Nat) (event : Text) : Option (Event → Script S Bool) :=
  methods n (handlerName event)

/-- The handler of a listener for an event, if it has one. -/
def handler (methods : Methods S) (n : Nat) (e : Event) : Option (Script S Bool) :=
  (methods.receiver n e.kind.name.toList).map fun method => method e

end Methods

end JavaStudio
