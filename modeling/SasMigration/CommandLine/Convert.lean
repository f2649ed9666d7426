import SasMigration.CommandLine.Console
import SasMigration.Conversion.Convert
import SasMigration.Conversion.Output
import SasMigration.Model.Settings

namespace SasMigration

namespace ConvertProgram

def spec : ProgramSpec :=
  { main :=
      { description := "SAS到Python代码转换工具"
        options :=
          [.helpOption, .ofText ["-o", "--output-dir"] "output_dir" (.text "output") "输出目录路径",
            .ofText ["--openai-api-key"] "openai_api_key" .null "OpenAI API密钥（用于分析）",
            .ofText ["--azure-openai-api-key"] "azure_openai_api_key" .null
              "Azure OpenAI API密钥（用于转换）"]
        operand := .required "input_file" "输入SAS文件路径" }
    commands := [] }

def report (directory base : Text) : Command Unit := do
  Command.print ("转换完成，输出目录: " ++ directory)
  Command.print ("- Python代码: " ++ Path.join directory (base ++ ".py"))
  Command.print ("- 依赖文件: " ++ Path.join directory "requirements.txt")
  Command.print ("- 函数库: " ++ Path.join directory "functions")
  Command.print ("- 分析结果: " ++ Path.join directory "analysis")

/-- There is a model where there is a key for it; the one for dependencies takes a key from the
environment too. -/
def modelsFor (env : Environment) (key : Text) (models : AnalysisModels) : AnalysisModels :=
  let stored := (env.get? "OPENAI_API_KEY").getD []
  { dependencies := if key.isEmpty && stored.isEmpty then .absent else models.dependencies
    sources := if key.isEmpty then .absent else models.sources }

def run (env : Environment) (models : AnalysisModels) (parts : Option ProgramParts)
    (replies : List Reply) (name : Text) (args : List Text) : Command (Option Nat) := do
  let values ← Command.arguments spec name args
  let path := values.textAt "input_file"
  let files ← Command.files
  if !files.isPresent path then
    Command.print ("错误: 输入文件 '" ++ path ++ "' 不存在")
    Command.stop 1
  else
    let code ← Command.orFail (files.textAt path)
    let base := Path.withoutExtension (Path.baseName path)
    let models := modelsFor env (values.textAt "openai_api_key") models
    let (ready, x) := (Conversion.setUp models).run (Exchange.start replies)
    Command.write x.printed
    Command.orFail ready
    Command.print ("开始转换SAS文件: " ++ path)
    let (converted, x) := (Conversion.run models parts code base).run { x with printed := [] }
    Command.write x.printed
    let result ← Command.orFail converted
    let directory := values.textAt "output_dir"
    let saved ← Command.onFiles (ConversionOutput.save result.toFields directory base)
    Command.orFail saved
    report directory base
    return none

end ConvertProgram

end SasMigration
