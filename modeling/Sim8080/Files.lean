
namespace Sim8080

/-- Why a file could not be read. -/
inductive IoError where
  | notFound
  | isDirectory
  | notDirectory
  | invalidUtf8
  | unexpectedEof
  | other (text : String)
  deriving Repr, DecidableEq, Inhabited

def IoError.message : IoError → String
  | .notFound => "No such file or directory (os error 2)"
  | .isDirectory => "Is a directory (os error 21)"
  | .notDirectory => "Not a directory (os error 20)"
  | .invalidUtf8 => "stream did not contain valid UTF-8"
  | .unexpectedEof => "unexpected end of file"
  | .other text => text

/-- A directory entry. -/
inductive Entry where
  | file (bytes : ByteArray)
  | dir

def Entry.isDir : Entry → Bool
  | .file _ => false
  | .dir => true

/-- The contents that a run can see, by key: the segments of a path relative to the working
directory, or `/` followed by the segments of an absolute path. -/
structure Files where
  entries : List (List String × Entry) := []

namespace Files

def systemDirs : List String := ["dev", "tmp", "etc", "usr", "bin", "home", "root", "proc", "sys", "var", "lib", "opt"]

def segments (path : String) : List String :=
  (path.splitOn "/").foldl (fun acc s =>
    if s == "" || s == "." then acc
    else if s == ".." then acc.dropLast
    else acc ++ [s]) []

def key (path : String) : List String :=
  if path.startsWith "/" then "/" :: segments path else segments path

def addFile (fs : Files) (path : String) (bytes : ByteArray) : Files :=
  let segs := key path
  let parents := (List.range segs.length).map (fun i => segs.take i) |>.filter (· ≠ [])
  let fs := parents.foldl (fun fs p =>
    if fs.entries.any (·.1 == p) then fs else { entries := fs.entries ++ [(p, .dir)] }) fs
  { entries := (fs.entries.filter (·.1 != segs)) ++ [(segs, .file bytes)] }

def addDir (fs : Files) (path : String) : Files :=
  let segs := key path
  (List.range (segs.length + 1)).foldl (fun fs i =>
    let p := segs.take i
    if p == [] || fs.entries.any (·.1 == p) then fs else { entries := fs.entries ++ [(p, .dir)] })
    fs

def lookup (fs : Files) (path : String) : Except IoError Entry :=
  if path.startsWith "/" then
    match fs.entries.find? (·.1 == key path), segments path with
    | some (_, .file b), _ => if path.endsWith "/" then .error .notDirectory else .ok (.file b)
    | some (_, .dir), _ => .ok .dir
    | none, [] => .ok .dir
    | none, ["dev", "null"] => .ok (.file ByteArray.empty)
    | none, [d] => if systemDirs.contains d then .ok .dir else .error .notFound
    | none, _ => .error .notFound
  else
    let segs := segments path
    if path == "" then .error .notFound
    else if segs == [] then .ok .dir
    else
      let throughFile := (List.range segs.length).any fun i =>
        i > 0 && (fs.entries.any fun (p, e) => p == segs.take i && match e with
          | .file _ => true
          | .dir => false)
      if throughFile then .error .notDirectory
      else
        match fs.entries.find? (·.1 == segs) with
        | some (_, e) =>
          match e with
          | .file b => if path.endsWith "/" then .error .notDirectory else .ok (.file b)
          | .dir => .ok .dir
        | none => .error .notFound

def read (fs : Files) (path : String) : Except IoError ByteArray :=
  match fs.lookup path with
  | .ok (.file b) => .ok b
  | .ok .dir => .error .isDirectory
  | .error e => .error e

def readText (fs : Files) (path : String) : Except IoError String := do
  let b ← fs.read path
  match String.fromUTF8? b with
  | some s => pure s
  | none => .error .invalidUtf8

def extension? (path : String) : Option String :=
  match ((path.splitOn "/").filter fun s => s != "" && s != ".").getLast? with
  | none => none
  | some ".." => none
  | some name =>
    match (name.splitOn ".").reverse with
    | ext :: rest@(_ :: _) => if rest.reverse == [""] then none else some ext
    | _ => none

def exists? (fs : Files) (path : String) : Bool := (fs.lookup path).toBool

def write (fs : Files) (path : String) (bytes : ByteArray) : Except IoError Files :=
  let given := fs.entries.any fun (p, e) => p == (key path).dropLast && e.isDir
  if path.startsWith "/" && !given then
    if segments path == ["dev", "null"] then .ok fs else .error (.other "Permission denied (os error 13)")
  else
    let segs := key path
    if segs.isEmpty then .error .isDirectory
    else
      let parent := segs.dropLast
      let parentOk : Except IoError Unit :=
        if parent.isEmpty || given then .ok ()
        else match fs.lookup ("/".intercalate parent) with
          | .ok .dir => .ok ()
          | .ok (.file _) => .error .notDirectory
          | .error e => .error e
      match parentOk with
      | .error e => .error e
      | .ok () =>
        match fs.entries.find? (·.1 == segs) with
        | some (_, .dir) => .error .isDirectory
        | _ => if path.endsWith "/" then .error .isDirectory else .ok (fs.addFile path bytes)

def isFile (fs : Files) (path : String) : Bool :=
  match fs.lookup path with
  | .ok (.file _) => true
  | _ => false

end Files

end Sim8080
