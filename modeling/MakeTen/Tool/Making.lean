import MakeTen.Host.Permission
import MakeTen.Host.Rearrange
import MakeTen.Shell.Pattern
import MakeTen.Tool.Options
/-!
# Making files

Programs that make directories and files, or change what may be done with them
and how long they are.

Main definitions:

- Functions `Tool.mkdir` and `Tool.rmdir`: directories.
- Functions `Tool.touch`, `Tool.truncate` and `Tool.mktemp`: files.
- Function `Tool.chmod`: what may be done with files.
-/

namespace MakeTen
namespace Tool

/-- The pattern that some characters spell. -/
def namePattern (raw : Raw) : List Shell.Piece :=
  Shell.compile (Shell.quoteEscaped (raw.map fun c => ⟨c, false⟩))

/-- Whether a text fits a pattern. -/
def fitsPattern (pattern : Raw) (foldsCase : Bool) (text : Raw) : Bool :=
  if foldsCase then Shell.fits (namePattern (pattern.map Char.toLower)) (text.map Char.toLower)
  else Shell.fits (namePattern pattern) text

/-- Carry out a change of the files, unless it is refused. -/
def changing (change : Files → Except HostFault Files) : Job (Option HostFault) := do
  match change (← get).files with
  | .ok files =>
    modify fun d => { d with files }
    return none
  | .error fault => return some fault

/-- Complain that something cannot be done, with a path. -/
def complainThat (what : String) (path : Raw) (fault : HostFault) : Job Unit :=
  complain (what.toList ++ named path ++ ": ".toList ++ faultText fault)

/-! ## Directories -/

/-- The paths that lead to what a path names, the shortest first. -/
def pathsTo (path : Raw) : List Raw :=
  let ends := (List.range path.length).filter fun n =>
    0 < n && (path.drop n).head? == some '/' && (path.drop (n - 1)).head? != some '/'
  (ends.filterMap fun n =>
    if (path.drop n).all (· == '/') then none else some (path.take n)) ++ [path]

/-- Complain that a directory cannot be made. -/
def complainOfMaking (path : Raw) (fault : HostFault) : Job Unit :=
  complain ("cannot create directory ".toList ++ Quoting.forReader path ++ ": ".toList ++
    faultText fault)

/-- Make directories. -/
def mkdir : Job Unit := do
  let o ← options "m,mode: p,parents v,verbose Z,context?"
  if o.operands.isEmpty then missingOperand 1
  let mask := (← get).files.mask
  let changes ← match o.value? "m" with
    | none => pure []
    | some text =>
      match Permission.read? text with
      | some changes => pure changes
      | none => giveUp 1 ("invalid mode ".toList ++ Quoting.forReader text)
  let mode := if o.has "m" then Permission.apply true mask Permission.plainBits changes
    else Files.masked Permission.plainBits mask
  let makeOne (path : Raw) (mode : Nat) : Job (Option HostFault) := do
    let fault ← changing fun files =>
      files.makeNew (Raw.toString path) .directory Permission.plainBits
    if fault.isNone then
      match (← get).files.ownPlace (Raw.toString path) with
      | .ok place => modify fun d => { d with files := d.files.setMode place mode }
      | .error _ => pure ()
      if o.has "v" then sayLine ("mkdir: created directory ".toList ++ named path)
    return fault
  let mut isGood := true
  for path in o.operands do
    if o.has "p" then
      let all := pathsTo path
      for (p, n) in all.zipIdx do
        let isLast : Bool := n + 1 == all.length
        if (← node? p) ≠ some .directory then
          let usual := Files.masked Permission.plainBits mask
          match ← makeOne p (if isLast then mode else usual ||| 0o300) with
          | none => pure ()
          | some fault =>
            if fault = .exists ∧ ¬ isLast then complainOfMaking p .notDirectory
            else complainOfMaking p fault
            isGood := false
            break
    else
      match ← makeOne path mode with
      | none => pure ()
      | some fault =>
        complainOfMaking path fault
        isGood := false
  exitGood isGood

/-- Remove a directory, and complain if that is refused.  The answer is whether it
has been removed, and whether nothing is wrong. -/
def removeEmpty (o : Chosen) (what : String) (path : Raw) : Job (Bool × Bool) := do
  if o.has "v" then sayLine ("rmdir: removing directory, ".toList ++ named path)
  let isLink : Bool :=
    match (← get).files.ownNode? (Raw.toString (Raw.dropEnd (· == '/') path)) with
    | some (.link _) => path.getLast? == some '/'
    | _ => false
  if isLink then
    complain (what.toList ++ named path ++ ": Symbolic link not followed".toList)
    return (false, false)
  match ← changing fun files => files.removeDirectory (Raw.toString path) with
  | none => return (true, true)
  | some fault =>
    if fault = .notEmpty ∧ o.has "ignore-fail-on-non-empty" then return (false, true)
    complainThat what path fault
    return (false, false)

/-- Remove empty directories. -/
def rmdir : Job Unit := do
  let o ← options "p,parents v,verbose ignore-fail-on-non-empty"
  if o.operands.isEmpty then missingOperand 1
  let mut isGood := true
  for path in o.operands do
    let (isRemoved, isFine) ← removeEmpty o "failed to remove " path
    if ¬ isFine then isGood := false
    if isRemoved ∧ o.has "p" then
      for above in (pathsTo (Raw.dropEnd (· == '/') path)).reverse.drop 1 do
        let (isRemoved, isFine) ← removeEmpty o "failed to remove directory " above
        if ¬ isFine then isGood := false
        if ¬ isRemoved then break
  exitGood isGood

/-! ## Files -/

/-- Make files, or let them be what has been changed last. -/
def touch : Job Unit := do
  let o ← options "a c,no-create d,date: f m r,reference: t: h,no-dereference time:"
  match o.value? "r" with
  | none => pure ()
  | some path =>
    match (← get).files.follow (Raw.toString path) with
    | .ok _ => pure ()
    | .error fault =>
      complainThat "failed to get attributes of " path fault
      exit 1
  match o.value? "t" with
  | none => pure ()
  | some text =>
    let digits := text.filter (· ≠ '.')
    if digits.length < 8 ∨ ¬ digits.all Char.isDigit then
      giveUp 1 ("invalid date format ".toList ++ Quoting.forReader text)
  if o.operands.isEmpty then giveUsage 1 "missing file operand".toList
  let isOld : Bool := o.has "d" || o.has "t" || o.has "r"
  let mut isGood := true
  for path in o.operands do
    if path ≠ ['-'] then
      let files := (← get).files
      match files.follow (Raw.toString path) with
      | .ok place =>
        modify fun d =>
          { d with files := if isOld then files.makeOld place else files.renew place }
      | .error cause =>
        if cause = .missing ∧ o.has "c" then pure ()
        else if path.getLast? = some '/' then
          complainThat "setting times of " path cause
          isGood := false
        else
          match ← store path false [] with
          | .ok () =>
            if isOld then
              let files := (← get).files
              match files.follow (Raw.toString path) with
              | .ok place => modify fun d => { d with files := files.makeOld place }
              | .error _ => pure ()
          | .error fault =>
            complainThat "cannot touch " path fault
            isGood := false
  exitGood isGood

/-- How long a file is to be: a size, or a change of the size. -/
def readLength? (raw : Raw) : Option (Option Char × Nat) :=
  match Raw.trim raw with
  | c :: rest =>
    if "+-<>/%".toList.contains c then (size? rest).map fun n => (some c, n)
    else (size? (c :: rest)).map fun n => (none, n)
  | [] => none

/-- A size after a change. -/
def changedLength (old : Nat) : Option Char × Nat → Nat
  | (none, n) => n
  | (some '+', n) => old + n
  | (some '-', n) => old - n
  | (some '<', n) => min old n
  | (some '>', n) => max old n
  | (some '/', n) => old / n * n
  | (some _, n) => (old + n - 1) / n * n

/-- Make files shorter or longer. -/
def truncate : Job Unit := do
  let o ← options "c,no-create o,io-blocks r,reference: s,size:"
  if ¬ o.has "s" ∧ ¬ o.has "r" then
    giveUsage 1 ("you must specify either ".toList ++ Quoting.forReader "--size".toList ++
      " or ".toList ++ Quoting.forReader "--reference".toList)
  let length ← match o.value? "s" with
    | none => pure (none, 0)
    | some text =>
      match readLength? text with
      | some length => pure length
      | none => giveUp 1 ("Invalid number: ".toList ++ Quoting.forReader text)
  if (length.1 = some '/' ∨ length.1 = some '%') ∧ length.2 = 0 then
    giveUp 1 "division by zero".toList
  let base ← match o.value? "r" with
    | none => pure none
    | some path =>
      match ← contents path with
      | .ok raw => pure (some raw.length)
      | .error fault =>
        complainThat "cannot stat " path fault
        exit 1
  if o.operands.isEmpty then giveUsage 1 "missing file operand".toList
  let mut isGood := true
  for path in o.operands do
    let old ← contents path
    let raw := match old with
      | .ok raw => raw
      | .error _ => []
    let isNew : Bool := match old with
      | .ok _ => false
      | .error fault => fault == .missing
    if ¬ (isNew ∧ o.has "c") then
      let size := match base with
        | some n => if o.has "s" then changedLength n length else n
        | none => changedLength raw.length length
      let bytes := raw.take size ++ List.replicate (size - raw.length) Raw.nul
      match ← store path false bytes with
      | .ok () => pure ()
      | .error fault =>
        complain ("cannot open ".toList ++ named path ++ " for writing: ".toList ++
          faultText fault)
        isGood := false
  exitGood isGood

/-- Letters for names that nothing has yet. -/
def nameLetters : Raw :=
  "abcdefghijklmnopqrstuvwxyzABCDEFGHIJKLMNOPQRSTUVWXYZ0123456789".toList

/-- Some letters that a number decides. -/
def lettersOf : Nat → Nat → Raw
  | 0, _ => []
  | count + 1, seed =>
    nameLetters.getD (seed % 62) 'a' :: lettersOf count (seed * 31 / 62 + seed / 7 + count)

/-- A path that leads nowhere, with letters between two parts. -/
def freshPath (before after : Raw) (count : Nat) : Nat → Nat → Job Raw
  | 0, seed => return before ++ lettersOf count seed ++ after
  | fuel + 1, seed => do
    let path := before ++ lettersOf count seed ++ after
    if ((← get).files.ownNode? (Raw.toString path)).isNone then return path
    else freshPath before after count fuel (seed * 17 + 12345)

/-- Make a file or directory of a new name. -/
def mktemp : Job Unit := do
  let o ← options "d,directory u,dry-run q,quiet suffix: p: tmpdir? t V"
  let call := (← get).call
  let usualDirectory : Raw := match call.valueOf? "TMPDIR" with
    | some (c :: rest) => c :: rest
    | _ => "/tmp".toList
  let template ← match o.operands with
    | [] => pure "tmp.XXXXXXXXXX".toList
    | [t] => pure t
    | _ => giveUsage 1 "too many templates".toList
  let usesDirectory : Bool := o.operands.isEmpty || o.has "p" || o.has "tmpdir" || o.has "t"
  let directory : Raw :=
    if o.has "t" then usualDirectory
    else
      match o.value? "p" with
      | some (c :: rest) => c :: rest
      | _ =>
        match o.value? "tmpdir" with
        | some (c :: rest) => c :: rest
        | _ => usualDirectory
  let ending := (template.reverse.takeWhile (· ≠ 'X')).reverse
  let suffix ← match o.value? "suffix" with
    | none => pure ending
    | some text =>
      if ending.isEmpty then pure text
      else
        giveUp 1 ("with --suffix, template ".toList ++ Quoting.forReader template ++
          " must end in X".toList)
  let head := template.take (template.length - ending.length)
  let count := (head.reverse.takeWhile (· == 'X')).length
  if count < 3 then
    giveUp 1 ("too few X's in template ".toList ++ Quoting.forReader template)
  if suffix.contains '/' then
    giveUp 1 ("invalid suffix ".toList ++ Quoting.forReader suffix ++
      ", contains directory separator".toList)
  if o.has "t" ∧ template.contains '/' then
    giveUp 1 ("invalid template, ".toList ++ Quoting.forReader template ++
      ", contains directory separator".toList)
  if usesDirectory ∧ template.head? = some '/' then
    giveUp 1 ("invalid template, ".toList ++ Quoting.forReader template ++
      "; with --tmpdir, it may not be absolute".toList)
  let start : Raw :=
    if usesDirectory then
      (if directory.getLast? = some '/' then directory else directory ++ ['/'])
    else []
  let before := start ++ head.take (head.length - count)
  let path ← freshPath before suffix count 60 (call.clock / 1000 + call.number * 1000003)
  if ¬ o.has "u" then
    let isDirectory := o.has "d"
    let fault ← changing fun files =>
      let mode := if isDirectory then 0o700 else 0o600
      let node : FileNode := if isDirectory then .directory else .file []
      match { files with mask := 0 }.makeNew (Raw.toString path) node mode with
      | .ok changed => .ok { changed with mask := files.mask }
      | .error fault => .error fault
    match fault with
    | none => pure ()
    | some fault =>
      if o.has "q" then exit 1
      giveUp 1 ((if isDirectory then "failed to create directory via template "
        else "failed to create file via template ").toList ++
          Quoting.forReader (start ++ template) ++ ": ".toList ++ faultText fault)
  sayLine path

/-! ## Permissions -/

/-- Arguments without those that stand for a mode although they begin with a
hyphen, and these. -/
def splitModes : List Raw → List Raw × List Raw
  | [] => ([], [])
  | ['-', '-'] :: rest => (['-', '-'] :: rest, [])
  | ('-' :: c :: more) :: rest =>
    let (others, modes) := splitModes rest
    if "rwxXstugoa,+=01234567".toList.contains c then (others, ('-' :: c :: more) :: modes)
    else (('-' :: c :: more) :: others, modes)
  | word :: rest =>
    let (others, modes) := splitModes rest
    (word :: others, modes)

/-- What has become of bits, in words. -/
def modeReport (path : Raw) (old new : Nat) : Raw :=
  let shape (bits : Nat) : Raw :=
    Permission.octal 4 bits ++ " (".toList ++ Permission.letters bits ++ [')']
  "mode of ".toList ++ named path ++
    if old = new then " retained as ".toList ++ shape new
    else " changed from ".toList ++ shape old ++ " to ".toList ++ shape new

/-- Change what may be done with what a path leads to, and with all below it if
that is asked for. -/
def changeModes (o : Chosen) (isWatched : Bool) (target : Files → Bool → Nat → Nat)
    (expected : Bool → Nat → Nat) : Nat → Raw → Job Bool
  | 0, _ => return true
  | fuel + 1, path => do
    let files := (← get).files
    match files.follow (Raw.toString path) with
    | .error fault =>
      if ¬ o.has "f" then
        if (files.ownNode? (Raw.toString path)).isSome then
          complain ("cannot operate on dangling symlink ".toList ++ named path)
        else complainThat "cannot access " path fault
      return false
    | .ok place =>
      let isDirectory : Bool := files.at? place = some .directory
      let old := files.modeAt place
      let new := target files isDirectory old
      modify fun d => { d with files := files.setMode place new }
      if o.has "v" ∨ (o.has "c" ∧ old ≠ new) then sayLine (modeReport path old new)
      let mut isGood := true
      let naive := expected isDirectory old
      if isWatched ∧ Permission.without new naive ≠ 0 then
        flush
        complain (shown path ++ ": new permissions are ".toList ++ Permission.letters new ++
          ", not ".toList ++ Permission.letters naive)
        isGood := false
      if isDirectory ∧ o.has "R" then
        for name in files.children place do
          let below := path ++ (if path.getLast? = some '/' then [] else ['/']) ++
            Raw.ofString name
          match (← get).files.ownNode? (Raw.toString below) with
          | some (.link _) => pure ()
          | _ =>
            if ¬ (← changeModes o isWatched target expected fuel below) then isGood := false
      return isGood

/-- Change what may be done with files. -/
def chmod : Job Unit := do
  let call := (← get).call
  let (arguments, modes) := splitModes call.arguments
  let o ← optionsOf ("R,recursive v,verbose c,changes f,silent,quiet reference: " ++
    "preserve-root no-preserve-root") true 1 arguments
  let mask := (← get).files.mask
  let (text, paths) ← match o.value? "reference", modes, o.operands with
    | some _, [], [] => missingOperand 1
    | some _, [], paths => pure ([], paths)
    | some _, _ :: _, _ =>
      giveUsage 1 "cannot combine mode and --reference options".toList
    | none, [], [] => missingOperand 1
    | none, [], [mode] => missingAfter 1 mode
    | none, [], mode :: paths => pure (mode, paths)
    | none, mode :: more, [] => missingAfter 1 (Raw.join [','] (mode :: more))
    | none, mode :: more, paths => pure (Raw.join [','] (mode :: more), paths)
  let fuel := (← get).files.entries.length + 2
  let runAll (target : Files → Bool → Nat → Nat) (expected : Bool → Nat → Nat) : Job Unit := do
    let mut isGood := true
    for path in paths do
      if ¬ (← changeModes o (!modes.isEmpty) target expected fuel path) then isGood := false
    exitGood isGood
  match o.value? "reference" with
  | some path =>
    let files := (← get).files
    match files.follow (Raw.toString path) with
    | .error fault =>
      complainThat "failed to get attributes of " path fault
      exit 1
    | .ok place => runAll (fun _ _ _ => files.modeAt place) (fun _ _ => Permission.allBits)
  | none =>
    match Permission.read? text with
    | none => giveUsage 1 ("invalid mode: ".toList ++ Quoting.forReader text)
    | some changes =>
      runAll (fun _ isDirectory old => Permission.apply isDirectory mask old changes)
        (fun isDirectory old => Permission.apply isDirectory 0 old changes)

end Tool
end MakeTen
