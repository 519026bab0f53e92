import AppLauncher.Shell.Expand

/-!
# Redirections

A redirection leads a descriptor to a file, to where another descriptor leads, to a document of the
script, or nowhere. Its word is expanded before any redirection of the same command is done, a
document when its turn comes.
-/

namespace AppLauncher.Shell

/-- A redirection whose word has been expanded. -/
structure Opening where
  descriptor : Nat
  how : Redirection
  target : Text
  deriving Repr

namespace Opening

/-- A redirection with its word expanded. -/
def ofRedirect (output : List Command → Running Text) : Redirect → Running Opening
  | .mk descriptor (.document id) _ => return ⟨descriptor, .document id, []⟩
  | .mk descriptor .duplicate word => do
    let target ← Expand.text output word
    let isDescriptor := match target with
      | [c] => c == '-' || c.isDigit
      | _ => false
    if !isDescriptor then
      modifyProcess fun p => { p with line := p.reached }
      fail "Syntax error: Bad fd number".toList
    return ⟨descriptor, .duplicate, target⟩
  | .mk descriptor how word => return ⟨descriptor, how, ← Expand.text output word⟩

/-- The reason that is given for a file that cannot be opened or made. -/
def reason (absent : String) (error : SystemError) : Text :=
  match error with
  | .code 2 | .code 20 => absent.toList
  | .code n => (SystemError.numberText n).toList
  | other => other.message.toList

/-- Whether a path is the file that swallows what is written to it. -/
def isNull (target : Text) : Bool :=
  target == "/dev/null".toList

/-- Opens what is to be read. -/
def openInput (target : Text) : Running Stream := do
  let refuse (error : SystemError) : Running Stream :=
    fail ("cannot open ".toList ++ target ++ ": ".toList ++ reason "No such file" error)
  if isNull target then return .null
  let shell ← get
  match shell.files.resolve shell.process.here .use target.path with
  | .ok (.file location id _) => return .file ⟨location, id, 0⟩ false true false
  | .ok (.directory _) => return .directory
  | .ok _ => refuse .missing
  | .error error => refuse error

/-- Opens what is to be written. A file that exists is emptied if `empties`, and refused if
`protects`. -/
def openOutput (target : Text) (empties appends protects reads : Bool) : Running Stream := do
  let refuse (why : Text) : Running Stream :=
    fail ("cannot create ".toList ++ target ++ ": ".toList ++ why)
  if isNull target then return .null
  let shell ← get
  let here := shell.process.here
  let isFile := match shell.files.resolve here .use target.path with
    | .ok (.file _ _ _) => true
    | _ => false
  if protects && isFile then refuse (SystemError.numberText 17).toList
  else
    let opened := if empties then shell.files.openEmpty here target.path
      else shell.files.openEnd here target.path
    match opened with
    | .ok (handle, files) =>
      set { shell with files }
      return .file (if appends then handle else { handle with offset := 0 }) appends reads true
    | .error error => refuse (reason "Directory nonexistent" error)

def perform (output : List Command → Running Text) (opening : Opening) : Running Unit := do
  let lead (stream : Stream) : Running Unit := do
    setDescriptor opening.descriptor (some (← addStream stream))
  let target := opening.target
  match opening.how with
  | .input => lead (← openInput target)
  | .output => lead (← openOutput target true false ((← process).has 'C') false)
  | .clobber => lead (← openOutput target true false false false)
  | .append => lead (← openOutput target false true false false)
  | .readWrite => lead (← openOutput target false false false true)
  | .document id =>
    let word := ((← process).documents.lookup id).getD []
    lead (.source (← Expand.text output word))
  | .duplicate =>
    match target with
    | ['-'] => setDescriptor opening.descriptor none
    | _ =>
      match ← stream? (Text.digits target) with
      | some (n, _) => setDescriptor opening.descriptor (some n)
      | none => fail (target ++ ": Bad file descriptor".toList)

/-- Does redirections, and tells whether all of them were possible. -/
def performAll (output : List Command → Running Text) (openings : List Opening) :
    Running Bool :=
  tryCatch (do
    for opening in openings do opening.perform output
    return true) fun leave =>
      if leave = .failing then return false else throw leave

end Opening

end AppLauncher.Shell
