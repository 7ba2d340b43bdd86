import LiveLine.Text.Basic

/-!
# Signals
-/

namespace LiveLine.Shell

namespace Signal

/-- The names of the signals, from number one on. -/
def names : List String :=
  ["HUP", "INT", "QUIT", "ILL", "TRAP", "ABRT", "BUS", "FPE", "KILL", "USR1", "SEGV", "USR2",
    "PIPE", "ALRM", "TERM", "STKFLT", "CHLD", "CONT", "STOP", "TSTP", "TTIN", "TTOU", "URG",
    "XCPU", "XFSZ", "VTALRM", "PROF", "WINCH", "IO", "PWR", "SYS"]

/-- The name of a signal, in full. -/
def name? (n : Nat) : Option Text :=
  if n = 0 then none else (names[n - 1]?).map fun s => "SIG".toList ++ s.toList

/-- The greatest number of a signal. -/
def greatest : Nat := 64

/-- The name by which a shell calls a signal; zero stands for the end of a script. Some signals have
numbers only. -/
def shortName (n : Nat) : Text :=
  if n = 0 then "EXIT".toList
  else if n = 16 then "16".toList
  else if n ≤ 31 then ((names[n - 1]?).getD "").toList
  else if n ≤ 33 then Text.ofNat n
  else if n = 34 then "RTMIN".toList
  else if n ≤ 49 then "RTMIN+".toList ++ Text.ofNat (n - 34)
  else if n < greatest then "RTMAX-".toList ++ Text.ofNat (greatest - n)
  else "RTMAX".toList

/-- The number of the signal with a name, where zero stands for the end of a script. -/
def number? (t : Text) : Option Nat :=
  match Text.numeral? t with
  | some n => if n ≤ greatest then some n else none
  | none =>
    let t := t.map Char.toUpper
    (List.range (greatest + 1)).find? fun n => shortName n = t

/-- Signals that do nothing to a process that does not ask for them. -/
def isIgnored (n : Nat) : Bool := n = 0 || n = 17 || n = 18 || n = 23 || n = 28

/-- Signals that leave a core of the process that they end, where the system keeps cores. -/
def leavesCore (n : Nat) : Bool := (3 ≤ n && n ≤ 8) || n = 11 || n = 24 || n = 25 || n = 31

/-- Signals that stop a process until it is told to go on. -/
def isStop (n : Nat) : Bool := 19 ≤ n && n ≤ 22

/-- What a shell says of a program that a signal ended. -/
def description (n : Nat) : Text :=
  match n with
  | 1 => "Hangup".toList
  | 3 => "Quit".toList
  | 4 => "Illegal instruction".toList
  | 5 => "Trace/breakpoint trap".toList
  | 6 => "Aborted".toList
  | 7 => "Bus error".toList
  | 8 => "Floating point exception".toList
  | 9 => "Killed".toList
  | 10 => "User defined signal 1".toList
  | 11 => "Segmentation fault".toList
  | 12 => "User defined signal 2".toList
  | 14 => "Alarm clock".toList
  | 15 => "Terminated".toList
  | _ => []

end Signal

end LiveLine.Shell
