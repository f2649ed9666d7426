import SasMigration.Runner.Service

namespace SasMigration

structure ServerStart where
  host : Text
  port : Int
  logLevel : Option Text
  reload : Bool
deriving DecidableEq, Repr

/-- A directory whose files are served below a path. -/
structure StaticMount where
  path : Text
  directory : Text
  name : Text
deriving DecidableEq, Repr

namespace ServerStart

def anyHost : Text := "0.0.0.0"

def runnerPort : Int := 5000

def runner (host : Text) (port : Int) (debug : Bool) : ServerStart :=
  { host, port, logLevel := some (if debug then "debug" else "info"), reload := false }

def tasks : ServerStart := { host := anyHost, port := 8000, logLevel := none, reload := true }

end ServerStart

namespace StaticMount

def pages (home directory : Text) : StaticMount :=
  { path := "/static"
    directory := if directory.isEmpty then Path.join home RunService.pages else directory
    name := "static" }

end StaticMount

namespace Worker

def name : Text := "sas_code_analysis"

def arguments : List Text := ["worker", "--loglevel=info"]

end Worker

end SasMigration
