import SasMigration.Analysis.Report
import SasMigration.CommandLine.Console
import SasMigration.Tasks.Service
import SasMigration.Value.Pieces

namespace SasMigration

namespace SubmitProgram

def sizeOption : OptionSpec := .ofInteger ["--token-size"] "token_size" 4000 "最大令牌大小"

def outputOption : OptionSpec := .ofText ["--output", "-o"] "output" .null "输出文件路径"

def codeCommand : CommandSpec :=
  { description := []
    options := [.helpOption, sizeOption, outputOption]
    operand := .required "code" "SAS代码" }

def fileCommand : CommandSpec :=
  { description := []
    options := [.helpOption, sizeOption, outputOption]
    operand := .required "file_path" "SAS代码文件路径" }

def directoryCommand : CommandSpec :=
  { description := []
    options :=
      [.helpOption, .ofText ["--pattern"] "pattern" (.text Report.defaultWild) "文件匹配模式",
        sizeOption, outputOption]
    operand := .required "dir_path" "目录路径" }

def spec : ProgramSpec :=
  { main :=
      { description := "SAS代码分析工具"
        options := [.helpOption]
        operand := .command "command" "命令"
          [("code", "分析SAS代码"), ("file", "分析SAS代码文件"),
            ("dir", "分析目录中的SAS代码文件")] }
    commands := [("code", codeCommand), ("file", fileCommand), ("dir", directoryCommand)] }

def submit (r : TaskRequest) : Command (Option Nat) := do
  let id := TaskService.idOf (← get).submitted.length
  modify fun c ↦ { c with submitted := c.submitted ++ [r] }
  Command.print ("任务ID: " ++ id)
  Command.print "任务已提交，请稍后查看结果"
  return none

def refuse (line : Text) : Command (Option Nat) := do
  Command.print line
  Command.stop 1

def run (name : Text) (args : List Text) : Command (Option Nat) := do
  let values ← Command.arguments spec name args
  let size := values.integerAt "token_size"
  let files ← Command.files
  match String.ofList (values.textAt "command") with
  | "code" => submit (.code ⟨values.textAt "code", size⟩)
  | "file" =>
    let path := values.textAt "file_path"
    if files.isPresent path then submit (.file ⟨path, size⟩)
    else refuse ("错误: 文件不存在: " ++ path)
  | "dir" =>
    let path := values.textAt "dir_path"
    if files.isDirectory path then submit (.directory ⟨path, values.textAt "pattern", size⟩)
    else refuse ("错误: 目录不存在: " ++ path)
  | _ => refuse "请指定命令: code, file 或 dir"

def save (result : Value) (path : Text) : Command Unit := do
  let pieces := result.pieces false
  if path.isEmpty then
    match FileAction.joined pieces with
    | (document, none) => Command.print document
    | (_, some fault) => Command.fail fault
  else
    let done ← Command.onFiles (FileAction.writePieces path (.ok pieces))
    Command.orFail done
    Command.print ("结果已保存到: " ++ path)

end SubmitProgram

end SasMigration
