import SasMigration.Fault
import SasMigration.Value.Display
import SasMigration.Value.Writer

namespace SasMigration.Prompt

structure Messages where
  system : Text
  human : Text
deriving DecidableEq, Repr

def longestCode : Nat := 8000

def shorten (notice code : Text) : Text :=
  if longestCode < code.length then code.take longestCode ++ notice else code

def fenced (code : Text) : Text := "```sas\n" ++ code ++ "\n```"

def fieldOf (fields : Fields) (key : Text) : Except Fault Value :=
  match Fields.get? fields key with
  | some v => .ok v
  | none => .error (.missingKey key)

def dependencyInstruction : Text :=
  Text.unlines
    ["",
     "        你是一个专业的SAS代码分析专家。请分析以下SAS代码，并提供以下信息：",
     "        1. 代码的主要功能和目的",
     "        2. 所有外部依赖（包括其他程序、宏、库等）",
     "        3. 数据集的使用情况（输入和输出）",
     "        4. 任何潜在的问题或优化建议",
     "        ",
     "        请以JSON格式返回结果，包含以下字段：",
     "        \x7b",
     "            \"code_purpose\": \"代码的主要功能描述\",",
     "            \"external_dependencies\": [\"依赖1\", \"依赖2\", ...],",
     "            \"dataset_usage\": \x7b",
     "                \"input\": [\"输入数据集1\", \"输入数据集2\", ...],",
     "                \"output\": [\"输出数据集1\", \"输出数据集2\", ...]",
     "            \x7d,",
     "            \"potential_issues\": [\"问题1\", \"问题2\", ...],",
     "            \"optimization_suggestions\": [\"建议1\", \"建议2\", ...]",
     "        \x7d",
     "        "]

def dependencies (code : Text) (findings : Fields) : Except Fault Messages := do
  let internal ← fieldOf findings "internal_dependencies"
  let external ← fieldOf findings "external_dependencies"
  let usage ← fieldOf findings "dataset_usage"
  let context := Text.unlines
    ["",
     "        基本分析已发现以下内容：",
     "        - 内部依赖: " ++ internal.display,
     "        - 外部依赖: " ++ external.display,
     "        - 数据集使用: " ++ usage.display,
     "        ",
     "        请基于以上发现并结合你的专业知识进行更深入的分析。",
     "        "]
  let code := shorten "\n...(代码已截断，仅显示前部分)" code
  return { system := dependencyInstruction, human := context ++ "\n\n代码:\n" ++ fenced code }

def schemaInstruction : Text :=
  Text.unlines
    ["",
     "        You are a professional SAS code analysis expert. Please analyze the following SAS code and extract schema information for all datasets.",
     "        ",
     "        For each dataset, please provide the following information if possible:",
     "        1. Dataset name",
     "        2. All field/variable names",
     "        3. Data type of each field (if can be inferred)",
     "        4. Description or purpose of each field (if can be inferred from the code)",
     "        ",
     "        Please return the results in JSON format as follows:",
     "        \x7b",
     "            \"dataset_name1\": [",
     "                \x7b\"name\": \"field1\", \"type\": \"numeric/character/date/etc\", \"description\": \"field description\"\x7d,",
     "                \x7b\"name\": \"field2\", \"type\": \"numeric/character/date/etc\", \"description\": \"field description\"\x7d",
     "            ],",
     "            \"dataset_name2\": [",
     "                \x7b\"name\": \"field1\", \"type\": \"numeric/character/date/etc\", \"description\": \"field description\"\x7d",
     "            ]",
     "        \x7d",
     "        ",
     "        If you cannot determine the type or description of a field, please use \"unknown\".",
     "        "]

def schemas (code : Text) (findings : Fields) : Except Fault Messages := do
  let dataSets ← fieldOf findings "datasets"
  let found ← fieldOf findings "schemas"
  let context := Text.unlines
    ["",
     "        Basic analysis has discovered the following datasets: " ++ dataSets.display,
     "        ",
     "        Basic schema information extracted: " ++ found.json true,
     "        ",
     "        Based on the above findings and your professional knowledge, please enrich the " ++
       "dataset schema information as much as possible.",
     "        Particularly, infer data types of fields and their possible purpose/description.",
     "        "]
  let code := shorten "\n...(code truncated, only showing the beginning)" code
  return { system := schemaInstruction, human := context ++ "\n\nCode:\n" ++ fenced code }

end SasMigration.Prompt
