import SasMigration.Conversion.Notes
import SasMigration.Text.Letter

namespace SasMigration

inductive DatabaseKind
  | sqlServer
  | oracle
  | mySql
  | postgreSql
  | sqlite
deriving DecidableEq, Repr

namespace DatabaseKind

def ofName? (name : Text) : Option DatabaseKind :=
  if name = "sqlserver".toList then some sqlServer
  else if name = "oracle".toList then some oracle
  else if name = "mysql".toList then some mySql
  else if name = "postgresql".toList then some postgreSql
  else if name = "sqlite".toList then some sqlite
  else none

end DatabaseKind

namespace Connection

/-- A setting as it stands in a program, or a word to be replaced by hand. -/
def setting (info : Fields) (key otherwise : Text) : Text :=
  match info.get? key with
  | some v => v.display
  | none => otherwise

def opening (title package : Text) : List Text :=
  ["",
    "# " ++ title ++ "连接",
    "import " ++ package,
    "import pandas as pd",
    "from sqlalchemy import create_engine",
    "",
    "# 使用" ++ package]

def closing (address : Text) : List Text :=
  ["",
    "# 使用SQLAlchemy",
    "engine = create_engine(f'" ++ address ++ "')",
    "",
    "# 读取数据示例",
    "# df = pd.read_sql('SELECT * FROM table_name', conn)",
    "# 或",
    "# df = pd.read_sql('SELECT * FROM table_name', engine)",
    ""]

def program (title package : Text) (connect : List Text) (address : Text) : Text :=
  Text.unlines (opening title package ++ connect ++ closing address)

def userName (info : Fields) : Text := setting info "username" "USERNAME"

def password (info : Fields) : Text := setting info "password" "PASSWORD"

def host (info : Fields) : Text := setting info "host" "HOST"

def database (info : Fields) : Text := setting info "database" "DATABASE_NAME"

def sqlServer (info : Fields) : Text :=
  let server := setting info "server" "SERVER_NAME"
  program "SQL Server" "pyodbc"
    ["conn_str = f'DRIVER=\x7bODBC Driver 17 for SQL Server\x7d;SERVER=" ++ server ++
        ";DATABASE=" ++ database info ++ ";UID=" ++ userName info ++ ";PWD=" ++ password info ++
        "'",
      "conn = pyodbc.connect(conn_str)"]
    ("mssql+pyodbc://" ++ userName info ++ ":" ++ password info ++ "@" ++ server ++ "/" ++
      database info ++ "?driver=ODBC+Driver+17+for+SQL+Server")

def oracle (info : Fields) : Text :=
  let port := setting info "port" "1521"
  let service := setting info "service" "SERVICE_NAME"
  program "Oracle" "cx_Oracle"
    ["dsn = cx_Oracle.makedsn(host='" ++ host info ++ "', port=" ++ port ++ ", service_name='" ++
        service ++ "')",
      "conn = cx_Oracle.connect(user='" ++ userName info ++ "', password='" ++ password info ++
        "', dsn=dsn)"]
    ("oracle+cx_oracle://" ++ userName info ++ ":" ++ password info ++ "@" ++ host info ++ ":" ++
      port ++ "/?service_name=" ++ service)

/-- A connection with host and port, where packages differ in the word for the database. -/
def served (title package scheme word defaultPort : Text) (info : Fields) : Text :=
  let port := setting info "port" defaultPort
  program title package
    ["conn = " ++ package ++ ".connect(host='" ++ host info ++ "', port=" ++ port ++ ", user='" ++
      userName info ++ "', password='" ++ password info ++ "', " ++ word ++ "='" ++
      database info ++ "')"]
    (scheme ++ "://" ++ userName info ++ ":" ++ password info ++ "@" ++ host info ++ ":" ++ port ++
      "/" ++ database info)

def sqlite (info : Fields) : Text :=
  let file := setting info "database" "DATABASE_FILE.db"
  program "SQLite" "sqlite3" ["conn = sqlite3.connect('" ++ file ++ "')"] ("sqlite:///" ++ file)

def ofKind : DatabaseKind → Fields → Text
  | .sqlServer => sqlServer
  | .oracle => oracle
  | .mySql => served "MySQL" "pymysql" "mysql+pymysql" "database" "3306"
  | .postgreSql => served "PostgreSQL" "psycopg2" "postgresql" "dbname" "5432"
  | .sqlite => sqlite

def kindOf (source : Value) : Except Fault (Option DatabaseKind) := do
  match ← source.lookUp "type" with
  | none => return none
  | some (.text t) => return DatabaseKind.ofName? (Text.lower t)
  | some v => throw (.noOperation v.kindName "lower")

def infoOf (source : Value) : Except Fault Fields := do
  match ← source.lookUp "connection_info" with
  | none => return []
  | some (.object fields) => return fields
  | some v => throw (.noOperation v.kindName "get")

def ofSource (source : Value) : Except Fault (Option Text) := do
  match ← kindOf source with
  | some kind =>
    let info ← infoOf source
    return some (ofKind kind info)
  | none => return none

def ofSources : List Value → Except Fault (List Text)
  | [] => .ok []
  | source :: rest => do
    let first ← ofSource source
    let more ← ofSources rest
    return first.toList ++ more

def ofAnalysis (analysis : Value) : Except Fault Text := do
  match ← analysis.part? "data_sources" with
  | none => return "# 未检测到数据库连接信息"
  | some v =>
    let sources ← v.items
    match ← ofSources sources with
    | [] => return "# 未检测到支持的数据库连接信息"
    | programs => return Text.unlines programs

end Connection

end SasMigration
