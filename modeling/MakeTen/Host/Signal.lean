import MakeTen.Text.Raw
/-!
# Signals

The signals of a host by name and number.

Main definitions:

- Definition `Signal.names`: the signals.
- Function `Signal.ofText?`: the signal that a text names.
-/

namespace MakeTen
namespace Signal

/-- Numbers of the signals. -/
def names : List (String × Nat) :=
  [("EXIT", 0), ("HUP", 1), ("INT", 2), ("QUIT", 3), ("ILL", 4), ("TRAP", 5), ("ABRT", 6),
    ("BUS", 7), ("FPE", 8), ("KILL", 9), ("USR1", 10), ("SEGV", 11), ("USR2", 12), ("PIPE", 13),
    ("ALRM", 14), ("TERM", 15), ("STKFLT", 16), ("CHLD", 17), ("CONT", 18), ("STOP", 19),
    ("TSTP", 20), ("TTIN", 21), ("TTOU", 22), ("URG", 23), ("XCPU", 24), ("XFSZ", 25),
    ("VTALRM", 26), ("PROF", 27), ("WINCH", 28), ("IO", 29), ("PWR", 30), ("SYS", 31)]

/-- Least number that no signal has. -/
def bound : Nat := 65

/-- The name of a signal, if it has one. -/
def name? (signal : Nat) : Option String :=
  (names.find? (·.2 = signal)).map Prod.fst

/-- The signal that a text names, by its number or by its name with or without
three letters in front. -/
def ofText? (raw : Raw) : Option Nat :=
  match Raw.toNat? raw with
  | some n => if n < bound then some n else none
  | none =>
    let upper := String.ofList (raw.map Char.toUpper)
    (names.lookup upper).or (names.lookup (String.ofList ((raw.map Char.toUpper).drop 3)) |>.filter
      fun _ => (raw.map Char.toUpper).take 3 = "SIG".toList)

end Signal
end MakeTen
