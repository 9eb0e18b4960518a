import CanonicalLR.CommandLine.Options
import CanonicalLR.Service.Settings

/-! # Starting the service

The command line is read before the environment. An option overrides the environment unless its value
is empty or zero. What comes of it is a request for help, an error, or the settings to serve with.
-/
namespace CanonicalLR.CommandLine

def usage : String :=
  "usage: clr-server [-h] [--host HOST] [--port PORT] [--debug]\n"

def helpText : String :=
  usage ++ "\nCLR(1) parser generator service\n\noptions:\n" ++
    "  -h, --help   show this help message and exit\n" ++
    "  --host HOST  interface to bind (default: $CLR_HOST or 127.0.0.1)\n" ++
    "  --port PORT  port to listen on (default: $CLR_PORT or 5000)\n" ++
    "  --debug      enable Flask debug mode\n"

inductive Launch where
  | help
  | refused (e : ArgumentError)
  | failed (e : Text.IntegerError)
  | serve (s : Settings)
deriving DecidableEq

def override (o : Options) (s : Settings) : Settings where
  host := match o.host with
    | some host => if host.isEmpty then s.host else host
    | none => s.host
  port := match o.port with
    | some port => if port = 0 then s.port else port
    | none => s.port
  debug := o.debug || s.debug
  maxInputTokens := s.maxInputTokens
  maxStates := s.maxStates
  maxSteps := s.maxSteps

def launch (arguments : List String) (env : Environment) : Launch :=
  match Options.read arguments with
  | .help => .help
  | .error e => .refused e
  | .options o =>
    match Settings.ofEnvironment env with
    | .error e => .failed e
    | .ok s => .serve (override o s)

namespace Launch

def standardOutput : Launch → String
  | help => helpText
  | serve s =>
    "--- CLR Parser Generator Server ---\n" ++ s!"Running on http://{s.host}:{s.port}\n" ++
      "----------------------------------\n"
  | refused _ => ""
  | failed _ => ""

def standardError : Launch → String
  | refused e => usage ++ s!"clr-server: error: {e.message}\n"
  | help => ""
  | failed _ => ""
  | serve _ => ""

/-- The exit code, if reading the command line already ends the program. -/
def exitCode? : Launch → Option Nat
  | help => some 0
  | refused _ => some 2
  | failed _ => none
  | serve _ => none

def logLevel (s : Settings) : String := if s.debug then "DEBUG" else "INFO"

end Launch

end CanonicalLR.CommandLine
