/-! Signals: their numbers, their names and what is said of a process that one of them ended. -/

namespace TraceWeave.Shell.Signal

/-- Names by number, beginning with 1. -/
def names : List String :=
  ["HUP", "INT", "QUIT", "ILL", "TRAP", "ABRT", "BUS", "FPE", "KILL", "USR1", "SEGV", "USR2",
    "PIPE", "ALRM", "TERM", "STKFLT", "CHLD", "CONT", "STOP", "TSTP", "TTIN", "TTOU", "URG",
    "XCPU", "XFSZ", "VTALRM", "PROF", "WINCH", "IO", "PWR", "SYS"]

def name (number : Nat) : String :=
  if number = 0 then "EXIT" else (names[number - 1]?).getD (toString number)

def ofText? (text : String) : Option Nat :=
  match text.toNat? with
  | some number => if number < 65 then some number else none
  | none =>
    let upper := text.toUpper
    if upper = "EXIT" then some 0 else (names.idxOf? upper).map (· + 1)

/-- The signals that end nothing. -/
def harmless : List Nat := [0, 17, 18, 23, 28]

/-- What is said of a process that a signal ended. Nothing is said of some. -/
def obituary? (number : Nat) : Option String :=
  match number with
  | 2 | 13 => none
  | 1 => some "Hangup"
  | 3 => some "Quit"
  | 4 => some "Illegal instruction"
  | 5 => some "Trace/breakpoint trap"
  | 6 => some "Aborted"
  | 7 => some "Bus error"
  | 8 => some "Floating point exception"
  | 9 => some "Killed"
  | 10 => some "User defined signal 1"
  | 11 => some "Segmentation fault"
  | 12 => some "User defined signal 2"
  | 14 => some "Alarm clock"
  | 15 => some "Terminated"
  | 16 => some "Stack fault"
  | 24 => some "CPU time limit exceeded"
  | 25 => some "File size limit exceeded"
  | 26 => some "Virtual timer expired"
  | 27 => some "Profiling timer expired"
  | 29 => some "I/O possible"
  | 30 => some "Power failure"
  | 31 => some "Bad system call"
  | _ => some ("Unknown signal " ++ toString number)

end TraceWeave.Shell.Signal
