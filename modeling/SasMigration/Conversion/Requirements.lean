import SasMigration.Conversion.Imports

namespace SasMigration.Requirements

/-- The piece with a number between the occurrences of a separator. -/
def piece (number : Nat) (sep t : Text) : Text := ((Text.splitOn sep t).drop number).headD []

def package? (statement : Text) : Option Text :=
  if Text.startsWith "import " statement then
    let first := piece 0 [','] (piece 0 " as " (piece 1 "import " statement))
    some (piece 0 ['.'] (Text.strip first))
  else if Text.startsWith "from " statement then
    let named := piece 0 " import" (piece 1 "from " statement)
    some (piece 0 ['.'] (Text.strip named))
  else none

def standard : List Text :=
  ["os", "sys", "re", "math", "datetime", "time", "json", "csv", "random", "collections",
    "itertools", "functools", "typing", "pathlib", "io"]

def known : List (Text × Text) :=
  [("pandas", "pandas>=1.3.0"), ("numpy", "numpy>=1.20.0"),
    ("matplotlib", "matplotlib>=3.4.0"), ("sqlalchemy", "sqlalchemy>=1.4.0"),
    ("pyodbc", "pyodbc>=4.0.30"), ("pymssql", "pymssql>=2.2.0"),
    ("psycopg2", "psycopg2-binary>=2.9.0"), ("pymysql", "pymysql>=1.0.2"),
    ("cx_Oracle", "cx_Oracle>=8.3.0"), ("openpyxl", "openpyxl>=3.0.7"),
    ("xlrd", "xlrd>=2.0.1"), ("xlwt", "xlwt>=1.3.0"), ("scipy", "scipy>=1.7.0"),
    ("statsmodels", "statsmodels>=0.12.0"), ("scikit-learn", "scikit-learn>=1.0.0"),
    ("sklearn", "scikit-learn>=1.0.0")]

def requirement (package : Text) : Text :=
  ((known.find? fun k ↦ k.1 == package).map (·.2)).getD package

def ofCode (code : Text) : List Text :=
  let packages := Text.distinctSorted ((Imports.ofCode code).filterMap package?)
  (packages.filter fun p ↦ !standard.contains p).map requirement

end SasMigration.Requirements
