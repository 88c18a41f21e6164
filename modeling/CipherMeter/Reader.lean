import CipherMeter.Bytes

/-!
# Readers

A reader hands out bytes on request, at most as many as asked for. What it does is laid down by a
list of events: bytes that become available, interruptions, and failures with a cause in `ε`.
A request that is answered with no bytes marks the end. `Reader.contents` says what a reader hands
out to somebody who asks until the end, whatever the sizes of the requests.
-/

namespace CipherMeter

inductive ReadEvent (ε : Type)
  /-- Bytes become available; none at all are taken for the end. -/
  | data (a : Bytes)
  | interrupted
  | failed (e : ε)
  deriving DecidableEq, Repr

inductive ReadOutcome (ε : Type)
  | bytes (a : Bytes)
  | interrupted
  | failed (e : ε)
  deriving DecidableEq, Repr

/-- A source of bytes: those available now, what happens after them, and the sizes of the requests
made so far, the latest first. -/
structure Reader (ε : Type) where
  available : Bytes
  events : List (ReadEvent ε)
  requests : List Nat
  deriving DecidableEq, Repr

namespace Reader

variable {ε : Type}

def ofEvents (events : List (ReadEvent ε)) : Reader ε := ⟨[], events, []⟩

def ofBytes (a : Bytes) : Reader ε := ofEvents [.data a]

def asked (r : Reader ε) : List Nat := r.requests.reverse

def serve (n : Nat) (a : Bytes) (events : List (ReadEvent ε)) (requests : List Nat) :
    ReadOutcome ε × Reader ε :=
  (.bytes (a.take n), ⟨a.drop n, events, requests⟩)

def read (r : Reader ε) (n : Nat) : ReadOutcome ε × Reader ε :=
  let requests := n :: r.requests
  if r.available.isEmpty then
    match r.events with
    | [] => (.bytes [], ⟨[], [], requests⟩)
    | .data a :: events => serve n a events requests
    | .interrupted :: events => (.interrupted, ⟨[], events, requests⟩)
    | .failed e :: events => (.failed e, ⟨[], events, requests⟩)
  else serve n r.available r.events requests

def eventSize : ReadEvent ε → Nat
  | .data a => a.length + 1
  | _ => 1

def eventsSize : List (ReadEvent ε) → Nat
  | [] => 0
  | event :: events => eventSize event + eventsSize events

/-- A bound on the requests that do not meet the end. -/
def size (r : Reader ε) : Nat := r.available.length + eventsSize r.events

theorem size_read_lt (r : Reader ε) (n : Nat) (h : (r.read n).1 ≠ .bytes []) :
    (r.read n).2.size < r.size := by
  obtain ⟨available, events, requests⟩ := r
  cases available with
  | nil =>
    cases events with
    | nil => exact absurd rfl h
    | cons event events =>
      have hsize : ∀ e : ReadEvent ε, 0 < eventSize e := fun e ↦ by cases e <;> simp [eventSize]
      have hpos := hsize event
      cases event with
      | data a =>
        simp only [read, serve, size, eventsSize, eventSize, List.isEmpty_nil, if_true,
          List.length_drop, List.length_nil]
        omega
      | interrupted | failed e =>
        simp only [read, size, eventsSize, List.isEmpty_nil, if_true, List.length_nil]
        omega
  | cons b available =>
    cases n with
    | zero => exact absurd rfl h
    | succ n =>
      simp only [read, serve, size, List.isEmpty_cons, Bool.false_eq_true, if_false,
        List.length_drop, List.length_cons]
      omega

def eventContents : List (ReadEvent ε) → Bytes × Except ε Unit
  | [] => ([], .ok ())
  | .data [] :: _ => ([], .ok ())
  | .data a :: events => (a ++ (eventContents events).1, (eventContents events).2)
  | .interrupted :: events => eventContents events
  | .failed e :: _ => ([], .error e)

def contents (r : Reader ε) : Bytes × Except ε Unit :=
  (r.available ++ (eventContents r.events).1, (eventContents r.events).2)

end Reader

end CipherMeter
