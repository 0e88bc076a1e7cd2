/-
  DaqMonitor.Cycle.Publication

  Handing finished values to readers. Only the newest value is kept, together with
  the number of values published so far; a reader remembers how many of them it has
  seen the last of. A reader that is slower than the writer misses the values in
  between.

    * `Publication.publish p a` — `a` is the newest value.
    * `Reader.hasNews r p` — a value was published since the reader looked.
    * `Reader.look r p` — the newest value, and the reader that has seen it.
-/

namespace DaqMonitor

variable {α : Type}

/-- The newest value, and how many were published. -/
structure Publication (α : Type) where
  newest : Option α := none
  count : Nat := 0

/-- The publication with a further value. -/
def Publication.publish (p : Publication α) (a : α) : Publication α :=
  { newest := some a, count := p.count + 1 }

/-- A reader: the number of values that were published when it looked last. -/
structure Reader where
  seen : Nat
  deriving DecidableEq, Repr

/-- A reader for which everything published so far is old. -/
def Publication.subscribe (p : Publication α) : Reader := ⟨p.count⟩

namespace Reader

/-- Whether a value was published since the reader looked. -/
def hasNews (r : Reader) (p : Publication α) : Bool := r.seen < p.count

/-- The newest value, and the reader that has seen it. -/
def look (_ : Reader) (p : Publication α) : Option α × Reader := (p.newest, p.subscribe)

@[simp] theorem hasNews_subscribe (p : Publication α) : p.subscribe.hasNews p = false := by
  simp [hasNews, Publication.subscribe]

@[simp] theorem hasNews_publish (p : Publication α) (a : α) :
    p.subscribe.hasNews (p.publish a) = true := by
  simp [hasNews, Publication.subscribe, Publication.publish]

@[simp] theorem look_publish (r : Reader) (p : Publication α) (a : α) :
    (r.look (p.publish a)).1 = some a := rfl

end Reader

end DaqMonitor
