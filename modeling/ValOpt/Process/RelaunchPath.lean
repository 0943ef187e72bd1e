import ValOpt.Process.Terminator
import ValOpt.System.WindowsFiles

/-!
# Paths that may be relaunched

`validate_relaunch_path` of `process/terminator.rs`, over a tree of files with links.  The checks
look at the path as it was given, and what is returned is the canonical path without the verbatim
prefix.
-/

namespace ValOpt

open FileTree Text

/-- `RelaunchError`. -/
inductive RelaunchError where
  | emptyPath
  | notAbsolute (path : String)
  | notFound (path : String)
  | invalidExtension (path : String)
  | isDirectory (path : String)
  | protectedExecutable (name : String)
  | accessDenied (message : String)
  | spawnFailed (message : String)
  deriving DecidableEq, Repr

/-- The path without `\\?\`. -/
def stripVerbatim (text : List Char) : List Char :=
  if "\\\\?\\".toList <+: text then text.drop 4 else text

/-- `validate_relaunch_path`. -/
def validateRelaunchPath (fs : WindowsFiles) (pathStr : String) : Except RelaunchError String :=
  let trimmed := trimMatches isWhitespace pathStr.toList
  let path := parsePath trimmed
  if trimmed = [] then .error .emptyPath
  else if !path.isAbsolute then .error (.notAbsolute (String.ofList trimmed))
  else if !path.extension.any fun ext => eqIgnoreAsciiCase ext "exe" then
    .error (.invalidExtension (String.ofList trimmed))
  else
    match fs.existing path with
    | none => .error (.notFound (String.ofList trimmed))
    | some loc =>
      if fs.tree.isDir loc then .error (.isDirectory (String.ofList trimmed))
      else
        let fileName := path.fileName.getD ""
        if classifyProcess fileName = .tier0Protected then .error (.protectedExecutable fileName)
        else .ok (String.ofList (stripVerbatim (fs.canonicalText loc)))

end ValOpt
