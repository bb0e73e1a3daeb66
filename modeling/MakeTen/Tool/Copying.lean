import MakeTen.Tool.Removing
/-!
# Copying and moving files

Programs whose operands are files and, last, where these are to go: a directory, or
the new name of the only file.  What stands in the way is replaced, kept under
another name, or left alone, as the caller wishes.

Main definitions:

- Structure `Tool.Transfer`: how files are copied or moved.
- Function `Tool.copyTree`: one file, or a directory with all below it.
- Functions `Tool.cp`, `Tool.mv`, `Tool.ln` and `Tool.install`: the programs.
-/

namespace MakeTen
namespace Tool

/-! ## How files go elsewhere -/

/-- What happens to what stands in the way. -/
inductive Clash where
  /-- It is replaced. -/
  | replace
  /-- It is replaced if that is agreed to. -/
  | ask
  /-- It stays. -/
  | keep
  /-- It stays, and that is a failure. -/
  | refuse
  /-- It is replaced if it is older. -/
  | older
  deriving DecidableEq

/-- How what is replaced is kept under another name. -/
inductive Backup where
  | none
  | simple
  | numbered
  /-- By numbers if there are some already. -/
  | existing
  deriving DecidableEq

/-- Whether links stand for what they lead to. -/
inductive Following where
  | never
  /-- Those that are operands. -/
  | operands
  | always
  deriving DecidableEq

/-- What a copy is. -/
inductive CopyKind where
  | contents
  /-- An empty file, unless there is one already. -/
  | empty
  | link
  /-- The same file once more. -/
  | shared
  deriving DecidableEq

/-- How files are copied or moved. -/
structure Transfer where
  isMove : Bool
  isDeep : Bool
  following : Following
  clash : Clash
  backup : Backup
  suffix : Raw
  isVerbose : Bool
  /-- Whether copies get the bits of their originals. -/
  keepsMode : Bool
  /-- The bits that copies get in any case. -/
  fixedMode : Option Nat
  kind : CopyKind
  /-- Whether what stands in the way is removed first. -/
  removesFirst : Bool

/-- Two paths with an arrow between them. -/
def arrow (source target : Raw) : Raw :=
  named source ++ " -> ".toList ++ named target

/-- The path under which something in the way is kept. -/
def backupPath? (t : Transfer) (path : Raw) : Job (Option Raw) := do
  let files := (← get).files
  let isThere (n : Nat) : Bool :=
    (files.ownNode? (Raw.toString (path ++ ".~".toList ++ Raw.ofNat n ++ ['~']))).isSome
  let count := ((List.range (files.entries.length + 1)).filter fun n => isThere (n + 1)).getLast?
  let byNumber := path ++ ".~".toList ++ Raw.ofNat ((count.map (· + 2)).getD 1) ++ ['~']
  return match t.backup with
    | .none => none
    | .simple => some (path ++ t.suffix)
    | .numbered => some byNumber
    | .existing => if count.isSome then some byNumber else some (path ++ t.suffix)

/-- Keep what is at a path under another name, which is the answer. -/
def keepBackup (t : Transfer) (path : Raw) : Job (Option Raw) := do
  match ← backupPath? t path with
  | none => return none
  | some kept =>
    let _ ← changing fun files => files.rename (Raw.toString path) (Raw.toString kept)
    return some kept

/-- What is said about a name under which something has been kept. -/
def backupNote : Option Raw → Raw
  | none => []
  | some kept => " (backup: ".toList ++ named kept ++ [')']

/-! ## What stands in the way -/

/-- What is to be done with a file when something stands in its way. -/
inductive Decision where
  | go
  /-- It is left alone; the flag says whether all is well. -/
  | leave (isGood : Bool)

/-- Whether a path leads to a link. -/
def isLinkPath (path : Raw) : Job Bool := do
  return match (← get).files.ownNode? (Raw.toString path) with
    | some (.link _) => true
    | _ => false

/-- What is to be done about something in the way. -/
def verdict (t : Transfer) (source target : Raw) (isDirectory : Bool) (isCreated : Bool) :
    Job Decision := do
  let files := (← get).files
  let own (path : Raw) := (files.ownPlace (Raw.toString path)).toOption.getD []
  let led (path : Raw) := (files.follow (Raw.toString path)).toOption.getD []
  let looksAtLinks : Bool :=
    t.isMove || t.removesFirst || t.kind == .link || t.backup ≠ .none ||
      (t.following == .never && (← isLinkPath source))
  let isSame : Bool :=
    if looksAtLinks then files.isSame (own source) (own target)
    else files.isSame (led source) (led target)
  if isSame then
    complain (named source ++ " and ".toList ++ named target ++ " are the same file".toList)
    return .leave false
  let replaces : Bool := files.at? (if looksAtLinks then own target else led target) =
    some .directory
  let isOlder : Bool := files.age (led target) < files.age (led source)
  if t.clash = .older ∧ ¬ isDirectory ∧ isOlder then return .leave true
  if t.isMove ∨ ¬ isDirectory then
    match t.clash with
    | .keep => return .leave true
    | .refuse =>
      complain ("not replacing ".toList ++ named target)
      return .leave false
    | .ask => if ¬ (← question ("overwrite ".toList ++ named target)) then return .leave false
    | .replace => pure ()
    | .older => pure ()
  if isDirectory ∧ ¬ replaces ∧ ¬ (t.isMove ∧ t.backup ≠ .none) then
    complain ("cannot overwrite non-directory ".toList ++ named target ++
      " with directory ".toList ++ named source)
    return .leave false
  if ¬ isDirectory ∧ replaces ∧ ¬ (t.isMove ∧ t.backup ≠ .none) then
    complain ("cannot overwrite directory ".toList ++ named target ++
      " with non-directory".toList)
    return .leave false
  if isCreated ∧ ¬ isDirectory then
    complain ("will not overwrite just-created ".toList ++ named target ++
      " with ".toList ++ named source)
    return .leave false
  return .go

/-! ## Moving -/

/-- Move one file or directory. -/
def moveOne (t : Transfer) (source target : Raw) (isCreated : Bool) : Job Bool := do
  let files := (← get).files
  match files.ownPlace (Raw.toString source) with
  | .error fault =>
    complainThat "cannot stat " source fault
    return false
  | .ok place =>
    let isDirectory : Bool := files.at? place = some .directory
    let there := files.ownPlace (Raw.toString target)
    let isThere : Bool := there.toOption.isSome
    match there with
    | .ok _ => pure ()
    | .error .missing => pure ()
    | .error fault =>
      complainThat "cannot stat " target fault
      return false
    let decision ← if isThere then verdict t source target isDirectory isCreated else pure .go
    match decision with
    | .leave isGood => return isGood
    | .go =>
      let kept ← if isThere then keepBackup t target else pure none
      match ← changing fun files => files.rename (Raw.toString source) (Raw.toString target) with
      | none =>
        if t.isVerbose then
          sayLine ("renamed ".toList ++ arrow source target ++ backupNote kept)
        return true
      | some .invalid =>
        complain ("cannot move ".toList ++ named source ++
          " to a subdirectory of itself, ".toList ++ named target)
        return false
      | some fault =>
        if fault = .notEmpty ∨ fault = .isDirectory ∨ fault = .exists then
          complainThat "cannot overwrite " target fault
        else
          complain ("cannot move ".toList ++ named source ++ " to ".toList ++ named target ++
            ": ".toList ++ faultText fault)
        return false

/-! ## Copying -/

/-- The bits of a copy of what is at a place. -/
def copiedMode (t : Transfer) (files : Files) (place : List String) : Nat :=
  let mode := files.modeAt place
  match t.fixedMode with
  | some fixed => fixed
  | none =>
    if t.keepsMode then mode
    else if files.at? place = some .directory then Permission.without mode files.mask
    else Permission.without (mode &&& Permission.plainBits) files.mask

/-- Give what a path leads to some bits. -/
def setModeOf (path : Raw) (mode : Nat) : Job Unit := do
  match (← get).files.follow (Raw.toString path) with
  | .ok place => modify fun d => { d with files := d.files.setMode place mode }
  | .error _ => pure ()

/-- Copy a file that is no directory and no link that stands for itself. -/
def copyContents (t : Transfer) (source target : Raw) (place : List String) (isNew : Bool) :
    Job Bool := do
  let files := (← get).files
  let mode := copiedMode t files place
  let refuse (what : String) (path : Raw) (fault : HostFault) : Job Bool := do
    flush
    complainThat what path fault
    return false
  match files.at? place with
  | some (.program name) =>
    let fault ← changing fun files =>
      match files.target (Raw.toString target) with
      | .ok new => .ok (files.put new (.program name) mode)
      | .error fault => .error fault
    match fault with
    | none => return true
    | some fault => refuse "cannot create regular file " target fault
  | _ =>
    if t.kind = .empty ∧ ¬ isNew then return true
    match ← contents source with
    | .error fault => refuse "cannot open " source fault
    | .ok raw =>
      if isNew ∧ (← isLinkPath target) then
        complain ("not writing through dangling symlink ".toList ++ named target)
        return false
      let isEnded : Bool := isNew && target.getLast? == some '/'
      let raw := if t.kind = .empty then [] else raw
      let outcome ← if isEnded then pure (.error .notDirectory) else store target false raw
      match outcome with
      | .ok () =>
        if isNew ∨ t.keepsMode ∨ t.fixedMode.isSome then setModeOf target mode
        return true
      | .error .noSpace => refuse "error writing " target .noSpace
      | .error fault => refuse "cannot create regular file " target fault

/-- Copy a link as a link, or make a copy that is a link. -/
def copyLink (held : String) (source target : Raw) (isNew : Bool) : Job Bool := do
  if ¬ isNew then
    let _ ← changing fun files => files.removeOther (Raw.toString target)
  match ← changing fun files => files.makeLink (Raw.toString target) held with
  | none => return true
  | some fault =>
    complain ("cannot create symbolic link ".toList ++ named target ++ " to ".toList ++
      named source ++ ": ".toList ++ faultText fault)
    return false

/-- Let a file be at another path as well. -/
def shareFile (target : Raw) (place : List String) : Job (Option HostFault) :=
  changing fun files =>
    match files.newPlace (Raw.toString target) with
    | .ok new =>
      if target.getLast? = some '/' then .error .missing else .ok (files.share place new)
    | .error fault => .error fault

/-- Copy one file, or a directory with all below it.  The last two arguments are the
operand that this is part of and its target. -/
def copyTree (t : Transfer) : Nat → Raw → Raw → Bool → Bool → Raw → Raw → Job Bool
  | 0, _, _, _, _, _, _ => return true
  | fuel + 1, source, target, isOperand, isCreated, top, topTarget => do
    let files := (← get).files
    let follows : Bool := t.following = .always ∨ (t.following = .operands ∧ isOperand)
    match files.lead follows (Raw.toString source) with
    | .error fault =>
      flush
      complainThat "cannot stat " source fault
      return false
    | .ok place =>
      let node := (files.at? place).getD .directory
      let isDirectory : Bool := node = .directory
      if isDirectory ∧ ¬ t.isDeep then
        flush
        complain ("-r not specified; omitting directory ".toList ++ named source)
        return false
      let isLink : Bool := match node with
        | .link _ => true
        | _ => false
      let looksAtLinks : Bool := isLink || t.kind == .link || t.kind == .shared ||
        t.backup ≠ .none || t.removesFirst
      let there := files.lead (!looksAtLinks) (Raw.toString target)
      let isThere : Bool := there.toOption.isSome
      match there with
      | .ok _ => pure ()
      | .error .missing => pure ()
      | .error fault =>
        flush
        complainThat "cannot stat " target fault
        return false
      let decision ← if isThere then verdict t source target isDirectory isCreated else pure .go
      match decision with
      | .leave isGood => return isGood
      | .go =>
        let kept ← if isThere ∧ ¬ isDirectory then keepBackup t target else pure none
        let isRemoved : Bool := isThere && kept.isNone && t.removesFirst && !isDirectory
        if isRemoved then
          let _ ← changing fun files => files.removeOther (Raw.toString target)
          if t.isVerbose then sayLine ("removed ".toList ++ named target)
        let isNew : Bool := !isThere || kept.isSome || isRemoved
        if t.isVerbose ∧ ¬ isDirectory then sayLine (arrow source target ++ backupNote kept)
        match node with
        | .directory =>
          let isNewDirectory := !isThere
          if isNewDirectory then
            match ← changing fun files =>
                files.makeNew (Raw.toString target) .directory Permission.plainBits with
            | none => if t.isVerbose then sayLine (arrow source target)
            | some fault =>
              flush
              complainThat "cannot create directory " target fault
              return false
          let topPlace := ((← get).files.follow (Raw.toString topTarget)).toOption
          let mut isGood := true
          for name in (← get).files.children place do
            if topPlace = some (place ++ [name]) then
              flush
              complain ("cannot copy a directory, ".toList ++ named top ++ ", into itself, ".toList ++
                named topTarget)
              isGood := false
            else if ¬ (← copyTree t fuel (below source name) (below target name) false false
                top topTarget) then isGood := false
          if isNewDirectory ∨ t.keepsMode then setModeOf target (copiedMode t files place)
          return isGood
        | .link held =>
          if t.kind = .link then copyLink (Raw.toString source) source target isNew
          else copyLink held source target isNew
        | _ =>
          match t.kind with
          | .link =>
            if source.head? ≠ some '/' ∧ target.contains '/' then
              complain (shown target ++
                ": can make relative symbolic links only in current directory".toList)
              return false
            copyLink (Raw.toString source) source target isNew
          | .shared =>
            match ← shareFile target place with
            | none => return true
            | some fault =>
              complain ("cannot create hard link ".toList ++ named target ++ " to ".toList ++
                named source ++ ": ".toList ++ faultText fault)
              return false
          | _ => copyContents t source target place isNew

/-! ## Operands -/

/-- Where operands are to go. -/
inductive Destination where
  /-- Into a directory. -/
  | directory (path : Raw)
  /-- The only operand gets this path. -/
  | path (path : Raw)

/-- The last name of an operand, as it is used in a directory. -/
def nameInDirectory (path : Raw) : Raw :=
  let trimmed := Raw.dropEnd (· == '/') path
  let name := (trimmed.reverse.takeWhile (· ≠ '/')).reverse
  if name = ['.', '.'] then ['.'] else name

/-- The path of a name in a directory, where the name may be empty. -/
def inDirectory (directory name : Raw) : Raw :=
  if name.isEmpty then directory
  else directory ++ (if directory.getLast? = some '/' then [] else ['/']) ++ name

/-- The fault of a path that ought to be a directory. -/
def directoryFault? (path : Raw) : Job (Option HostFault) := do
  let files := (← get).files
  return match files.follow (Raw.toString path) with
    | .error fault => some fault
    | .ok place => if files.at? place = some .directory then none else some .notDirectory

/-- The operands that are to go somewhere, and where.  A directory that is not there is
complained about in words of the program. -/
def destinationOf (o : Chosen) (noDirectory : String) : Job (List Raw × Destination) := do
  let tooFew (operands : List Raw) : Job (List Raw × Destination) := do
    match operands with
    | [] => giveUsage 1 "missing file operand".toList
    | path :: _ =>
      giveUsage 1 ("missing destination file operand after ".toList ++ named path)
  match o.value? "t" with
  | some directory =>
    if o.has "T" then
      giveUp 1 ("cannot combine --target-directory (-t) " ++
        "and --no-target-directory (-T)").toList
    match ← directoryFault? directory with
    | some fault =>
      complainThat noDirectory directory fault
      exit 1
    | none =>
      if o.operands.isEmpty then tooFew []
      else return (o.operands, .directory directory)
  | none =>
    match o.operands.reverse with
    | [] => tooFew []
    | [path] => tooFew [path]
    | last :: others =>
      let sources := others.reverse
      if o.has "T" then
        if 1 < sources.length then
          giveUsage 1 ("extra operand ".toList ++ named ((o.operands.drop 2).headD []))
        return (sources, .path last)
      match ← directoryFault? last with
      | none => return (sources, .directory last)
      | some fault =>
        if 1 < sources.length then
          complainThat "target " last fault
          exit 1
        else return (sources, .path last)

/-- Do something with every operand and its target.  Targets that have been made are
known, and so are sources. -/
def eachTransfer (sources : List Raw) (destination : Destination) (watches : Bool)
    (action : Raw → Raw → Bool → Job Bool) : Job Bool := do
  match destination with
  | .path target =>
    let mut isGood := true
    for source in sources do
      if ¬ (← action source target false) then isGood := false
    return isGood
  | .directory directory =>
    let mut isGood := true
    let mut seen : List Raw := []
    let mut made : List Raw := []
    for source in sources do
      let target := inDirectory directory (nameInDirectory source)
      if watches ∧ seen.contains source then
        let kind := if (← node? source) = some .directory then "directory " else "file "
        complain ("warning: source ".toList ++ kind.toList ++ named source ++
          " specified more than once".toList)
      else
        if ¬ (← action source target (made.contains target)) then isGood := false
        else made := target :: made
        seen := source :: seen
    return isGood

/-- The way of keeping what is replaced that options ask for. -/
def backupOf (o : Chosen) (call : Call) : Job (Backup × Raw) := do
  let suffix := ((o.value? "S").getD
    ((call.valueOf? "SIMPLE_BACKUP_SUFFIX").getD ['~']))
  if ¬ (o.has "b" ∨ o.has "backup" ∨ o.has "S") then return (.none, suffix)
  let (word, purpose) : Raw × String := match o.value? "backup" with
    | some (c :: rest) => (c :: rest, "backup type")
    | _ => ((call.valueOf? "VERSION_CONTROL").getD "existing".toList, "$VERSION_CONTROL")
  let word := if word.isEmpty then "existing".toList else word
  match ← chooseWord 1 purpose true
      [["none", "off"], ["simple", "never"], ["existing", "nil"], ["numbered", "t"]] word with
  | "none" => return (.none, suffix)
  | "simple" => return (.simple, suffix)
  | "existing" => return (.existing, suffix)
  | _ => return (.numbered, suffix)

/-- What an option says about files that are newer. -/
def updateClash (value : Raw) : Clash :=
  match String.ofList value with
  | "all" => .replace
  | "none" => .keep
  | "none-fail" => .refuse
  | _ => .older

/-- What happens to what stands in the way, by the last option about that. -/
def clashOf (o : Chosen) (isMove : Bool) : Clash :=
  let found := o.options.reverse.findSome? fun (key, value) =>
    match key with
    | "n" => some (if isMove then Clash.refuse else .keep)
    | "i" => some .ask
    | "f" => if isMove then some .replace else none
    | "u" => some (updateClash value)
    | "update" => some (updateClash value)
    | _ => none
  found.getD .replace

/-! ## The programs -/

/-- Copy files. -/
def cp : Job Unit := do
  let o ← options ("a,archive b backup? attributes-only copy-contents d debug f,force H " ++
    "i,interactive l,link L,dereference n,no-clobber P,no-dereference p preserve? " ++
    "no-preserve: parents r,R,recursive reflink? remove-destination sparse: " ++
    "strip-trailing-slashes s,symbolic-link S,suffix: t,target-directory: " ++
    "T,no-target-directory u update? v,verbose x,one-file-system Z context?")
  let call := (← get).call
  if o.has "n" then
    complain ("warning: behavior of -n is non-portable and may change in future; " ++
      "use --update=none instead").toList
  let (backup, suffix) ← backupOf o call
  let isDeep : Bool := o.has "r" || o.has "a"
  let following := match o.last? ["L", "P", "H", "d", "a"] with
    | some "L" => .always
    | some "H" => .operands
    | some _ => .never
    | none => if isDeep then .never else .always
  let kind : CopyKind :=
    if o.has "s" then .link else if o.has "l" then .shared
    else if o.has "attributes-only" then .empty else .contents
  let (sources, destination) ← destinationOf o "target directory "
  let keepsMode : Bool := o.has "p" || o.has "a" ||
    o.options.any fun (key, value) =>
      key == "preserve" && (value.isEmpty || (Raw.splitOn ',' value).any fun w =>
        w == "mode".toList || w == "all".toList)
  let losesMode : Bool := o.options.any fun (key, value) =>
    key == "no-preserve" && (Raw.splitOn ',' value).any fun w =>
      w == "mode".toList || w == "all".toList
  let mask := (← get).files.mask
  let t : Transfer :=
    { isMove := false, isDeep, following, clash := clashOf o false, backup, suffix
      isVerbose := o.has "v", keepsMode
      fixedMode := if losesMode ∧ ¬ isDeep then some (Files.masked Files.fileMode mask) else none
      kind, removesFirst := o.has "remove-destination" || (o.has "f" && kind ≠ .contents) }
  let fuel := (← get).files.entries.length + 4
  let isMany := 2 ≤ sources.length
  let isParents := o.has "parents"
  match destination, isParents with
  | .path _, true =>
    giveUsage 1 "with --parents, the destination must be a directory".toList
  | .directory directory, true =>
    let mut isGood := true
    for source in sources do
      let plain := Raw.dropEnd (· == '/') source
      let target := inDirectory directory (plain.dropWhile (· == '/'))
      for above in (pathsTo target).dropLast do
        if (← node? above).isNone then
          let _ ← changing fun files =>
            files.makeNew (Raw.toString above) .directory Permission.plainBits
          if t.isVerbose then
            let start := plain.take (above.length - directory.length - 1)
            sayLine (start ++ " -> ".toList ++ above)
      if ¬ (← copyTree t fuel source target true false source target) then isGood := false
    exitGood isGood
  | _, false =>
    let isGood ← eachTransfer sources destination isMany fun source target isCreated =>
      copyTree t fuel source target true isCreated source target
    exitGood isGood

/-- Move files. -/
def mv : Job Unit := do
  let o ← options ("b backup? debug f,force i,interactive n,no-clobber no-copy " ++
    "strip-trailing-slashes S,suffix: t,target-directory: T,no-target-directory u update? " ++
    "v,verbose Z,context")
  let call := (← get).call
  let (backup, suffix) ← backupOf o call
  let (sources, destination) ← destinationOf o "target directory "
  let t : Transfer :=
    { isMove := true, isDeep := true, following := .never, clash := clashOf o true, backup
      suffix, isVerbose := o.has "v", keepsMode := true, fixedMode := none, kind := .contents
      removesFirst := false }
  let strip (path : Raw) : Raw :=
    if o.has "strip-trailing-slashes" then Raw.dropEnd (· == '/') path else path
  let isGood ← eachTransfer (sources.map strip) destination false fun source target isCreated =>
    moveOne t source target isCreated
  exitGood isGood

/-- Copy files for use, or make directories. -/
def install : Job Unit := do
  let o ← options ("b backup? c C,compare d,directory D g,group: m,mode: o,owner: " ++
    "p,preserve-timestamps s,strip strip-program: S,suffix: t,target-directory: " ++
    "T,no-target-directory v,verbose")
  let call := (← get).call
  let mode ← match o.value? "m" with
    | none => pure 0o755
    | some text =>
      match Permission.read? text with
      | some changes => pure (Permission.apply false 0 0 changes)
      | none => giveUp 1 ("invalid mode ".toList ++ Quoting.forReader text)
  let makeAll (path : Raw) : Job Bool := do
    let mut isGood := true
    for p in pathsTo path do
      if isGood ∧ (← node? p) ≠ some .directory then
        match ← changing fun files =>
            files.makeNew (Raw.toString p) .directory Permission.plainBits with
        | none =>
          setModeOf p 0o755
          if o.has "v" then sayLine ("install: creating directory ".toList ++ named p)
        | some fault =>
          complainOfMaking p fault
          isGood := false
    return isGood
  if o.has "d" then
    if o.operands.isEmpty then giveUsage 1 "missing file operand".toList
    let mut isGood := true
    for path in o.operands do
      if ← makeAll path then setModeOf path mode else isGood := false
    exitGood isGood
  let (backup, suffix) ← backupOf o call
  let (sources, destination) ← destinationOf o "target directory "
  let t : Transfer :=
    { isMove := false, isDeep := false, following := .always, clash := .replace, backup, suffix
      isVerbose := o.has "v", keepsMode := false, fixedMode := some mode, kind := .contents
      removesFirst := true }
  match destination with
  | .path target =>
    if o.has "D" then
      match (pathsTo target).dropLast.getLast? with
      | some above => if ¬ (← makeAll above) then exit 1
      | none => pure ()
  | .directory _ => pure ()
  let isGood ← eachTransfer sources destination true fun source target isCreated => do
    if (← node? source) = some .directory then
      complain ("omitting directory ".toList ++ named source)
      return false
    copyTree t 2 source target true isCreated source target
  exitGood isGood

/-! ## Links -/

/-- The path that leads from a place to another one. -/
def relativePath (start goal : List String) : Raw :=
  let shared := ((start.zip goal).takeWhile fun (a, b) => a = b).length
  let steps := List.replicate (start.length - shared) ".." ++ goal.drop shared
  if steps.isEmpty then ['.'] else Raw.ofString (String.intercalate "/" steps)

/-- Make one link. -/
def linkOne (o : Chosen) (t : Transfer) (source target : Raw) (isCreated : Bool) : Job Bool := do
  let files := (← get).files
  let isSoft := o.has "s"
  let sourceNode := if o.has "L" then files.node? (Raw.toString source)
    else files.ownNode? (Raw.toString source)
  if ¬ isSoft then
    match files.lead (o.has "L") (Raw.toString source) with
    | .error fault =>
      complainThat "failed to access " source fault
      return false
    | .ok _ => pure ()
    if sourceNode = some .directory then
      complain (shown source ++ ": hard link not allowed for directory".toList)
      return false
  let old := files.ownNode? (Raw.toString target)
  let removes : Bool := o.has "f" || t.clash == .ask
  let mut kept : Option Raw := none
  if old.isSome ∧ (removes ∨ t.backup ≠ .none) then
    if isCreated then
      complain ("will not overwrite just-created ".toList ++ named target ++ " with ".toList ++
        named source)
      return false
    if old = some .directory then
      complain (shown target ++ ": cannot overwrite directory".toList)
      return false
    let own (path : Raw) := (files.ownPlace (Raw.toString path)).toOption.getD []
    let isSame : Bool := own source == own target && sourceNode.isSome
    if isSame ∧ ¬ isSoft then
      complain (named source ++ " and ".toList ++ named target ++ " are the same file".toList)
      return false
    if t.clash = .ask then
      if ¬ (← question ("replace ".toList ++ named target)) then return true
    kept ← keepBackup t target
    if kept.isNone then
      let _ ← changing fun files => files.removeOther (Raw.toString target)
  let place (path : Raw) : List String := (files.target (Raw.toString path)).toOption.getD []
  let held : Raw :=
    if o.has "r" ∧ isSoft then relativePath (place target).dropLast (place source) else source
  let fault ←
    if isSoft then changing fun files => files.makeLink (Raw.toString target) (Raw.toString held)
    else
      match files.lead (o.has "L") (Raw.toString source) with
      | .ok place => shareFile target place
      | .error fault => pure (some fault)
  match fault with
  | none =>
    if o.has "v" then
      let before := match kept with
        | some k => named k ++ " ~ ".toList
        | none => []
      sayLine (before ++ named target ++ (if isSoft then " -> " else " => ").toList ++
        named held)
    return true
  | some fault =>
    let what := if isSoft then "failed to create symbolic link " else "failed to create hard link "
    let about : Raw :=
      if isSoft ∧ held.isEmpty then named target ++ " -> ".toList ++ named held
      else if ¬ isSoft ∧ fault ≠ .exists then named target ++ " => ".toList ++ named source
      else named target
    complain (what.toList ++ about ++ ": ".toList ++ faultText fault)
    return false

/-- Make links. -/
def ln : Job Unit := do
  let o ← options ("b backup? d,F,directory f,force i,interactive L,logical " ++
    "n,no-dereference P,physical r,relative s,symbolic S,suffix: t,target-directory: " ++
    "T,no-target-directory v,verbose")
  let call := (← get).call
  let (backup, suffix) ← backupOf o call
  let clash : Clash := match o.last? ["i", "f"] with
    | some "i" => .ask
    | _ => .replace
  let t : Transfer :=
    { isMove := true, isDeep := true, following := .never, clash, backup, suffix
      isVerbose := o.has "v", keepsMode := false, fixedMode := none, kind := .link
      removesFirst := false }
  let goal? : Option (List Raw × Destination) ← match o.operands.reverse with
    | [] => giveUsage 1 "missing file operand".toList
    | [only] =>
      if o.has "t" then pure none
      else if o.has "T" then
        giveUsage 1 ("missing destination file operand after ".toList ++ named only)
      else pure (some ([only], .directory ['.']))
    | last :: others =>
      if o.has "t" ∨ o.has "T" then pure none
      else
        let isPlain : Bool := o.has "n" && (← isLinkPath last)
        if isPlain ∧ others.length = 1 then pure (some (others, .path last)) else pure none
  let (sources, destination) ← match goal? with
    | some goal => pure goal
    | none => destinationOf o "failed to access "
  let isGood ← eachTransfer sources destination false fun source target isCreated =>
    linkOne o t source target isCreated
  exitGood isGood

/-- Let a file have a second name. -/
def link : Job Unit := do
  let o ← options ""
  match o.operands with
  | [] => missingOperand 1
  | [source] => missingAfter 1 source
  | [source, target] =>
    let fault ← match (← get).files.ownPlace (Raw.toString source) with
      | .ok place => shareFile target place
      | .error fault => pure (some fault)
    match fault with
    | none => exit 0
    | some fault =>
      giveUp 1 ("cannot create link ".toList ++ named target ++ " to ".toList ++ named source ++
        ": ".toList ++ faultText fault)
  | _ :: _ :: extra :: _ => extraOperand 1 extra

end Tool
end MakeTen
