/-!
# Accounts

Who has an account at a host, and which groups there are, as the account files list them.

Main definitions:

- Structure `Account` and definition `Account.all`: the accounts.
- Definition `Account.groups`: the groups.
- Functions `Account.file` and `Account.groupFile`: the files that list them.
-/

namespace MakeTen

/-- An account of a host. -/
structure Account where
  name : String
  number : Nat
  group : Nat
  comment : String
  home : String
  program : String

namespace Account

/-- An account that nobody logs in to. -/
def silent (name : String) (number group : Nat) (comment home : String) : Account :=
  ⟨name, number, group, comment, home, "/usr/sbin/nologin"⟩

/-- An account of a part of the system, which has a group of its own number. -/
def service (name : String) (number : Nat) (home : String) : Account :=
  silent name number number name home

/-- The accounts of a host. -/
def all : List Account :=
  [⟨"root", 0, 0, "root", "/root", "/bin/bash"⟩,
    service "daemon" 1 "/usr/sbin",
    service "bin" 2 "/bin",
    service "sys" 3 "/dev",
    ⟨"sync", 4, 65534, "sync", "/bin", "/bin/sync"⟩,
    silent "games" 5 60 "games" "/usr/games",
    silent "man" 6 12 "man" "/var/cache/man",
    service "lp" 7 "/var/spool/lpd",
    service "mail" 8 "/var/mail",
    service "news" 9 "/var/spool/news",
    service "uucp" 10 "/var/spool/uucp",
    service "proxy" 13 "/bin",
    service "www-data" 33 "/var/www",
    service "backup" 34 "/var/backups",
    silent "list" 38 38 "Mailing List Manager" "/var/list",
    silent "irc" 39 39 "ircd" "/run/ircd",
    silent "_apt" 42 65534 "" "/nonexistent",
    service "nobody" 65534 "/nonexistent"]

/-- The groups of a host, each with its number. -/
def groups : List (String × Nat) :=
  [("root", 0), ("daemon", 1), ("bin", 2), ("sys", 3), ("adm", 4), ("tty", 5), ("disk", 6),
    ("lp", 7), ("mail", 8), ("news", 9), ("uucp", 10), ("man", 12), ("proxy", 13),
    ("kmem", 15), ("dialout", 20), ("fax", 21), ("voice", 22), ("cdrom", 24), ("floppy", 25),
    ("tape", 26), ("sudo", 27), ("audio", 29), ("dip", 30), ("www-data", 33), ("backup", 34),
    ("operator", 37), ("list", 38), ("irc", 39), ("src", 40), ("shadow", 42), ("utmp", 43),
    ("video", 44), ("sasl", 45), ("plugdev", 46), ("staff", 50), ("games", 60),
    ("users", 100), ("nogroup", 65534)]

/-- The line of an account in the file of accounts. -/
def line (a : Account) : String :=
  ":".intercalate [a.name, "x", toString a.number, toString a.group, a.comment, a.home, a.program]

/-- The file of accounts. -/
def file : String :=
  String.join (all.map fun a => a.line ++ "\n")

/-- The file of groups. -/
def groupFile : String :=
  String.join (groups.map fun (name, number) => name ++ ":x:" ++ toString number ++ ":\n")

/-- The account of a name, or of a number in digits. -/
def named? (text : String) : Option Account :=
  match all.find? (·.name == text) with
  | some a => some a
  | none => text.toNat?.bind fun n => all.find? (·.number == n)

/-- The name of the group of a number. -/
def groupName? (number : Nat) : Option String :=
  (groups.find? (·.2 == number)).map Prod.fst

end Account
end MakeTen
