import Sim8080.Args.Spec

namespace Sim8080.Usage

def command : String := "cadence"

def line (used : List Arg) : String :=
  let body :=
    if used.isEmpty then command ++ " [OPTIONS] " ++ Arg.program.render false
    else
      let options := (used.filter (!·.isPositional)).eraseDups.map (·.render true)
      " ".intercalate ([command] ++ options ++ [Arg.program.render (used.contains .program)])
  "Usage: " ++ body

def optionEntry (a : Arg) : String :=
  let lead := match a.short with
    | some c => "  -" ++ String.singleton c ++ ", "
    | none => "      "
  lead ++ a.render false ++ "\n          " ++ a.description ++ "\n"

def helpText : String :=
  "Run an Intel 8080 program\n\n" ++ line [] ++ "\n\nArguments:\n  " ++ Arg.program.render false ++
    "  " ++ Arg.program.description ++ "\n\nOptions:\n" ++
    String.join ((Arg.all.filter (!·.isPositional)).map optionEntry)

def versionText : String := "cadence-frontend 0.1.0\n"

end Sim8080.Usage
