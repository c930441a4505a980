import BlitReel.Journal.Basic

/-!
# Lexicons

A lexicon gives, for a language, the template that stands for another. Templates without an entry
and languages without a lexicon keep the English wording.
-/

namespace BlitReel

namespace Lexicon

/-- Japanese. -/
def japanese : List (String × String) := [
  ("Reading %dx%d frames of %d bytes", "%dx%d フレーム (%d バイト) を読み込み中"),
  ("Frame %d written, mean error %.2f", "フレーム %d を書き込みました (平均誤差 %.2f)"),
  ("Converted %d frames (%dx%d at %g fps)", "%d フレームを変換しました (%dx%d, %g fps)"),
  ("Decoder failed after %d frames: %s", "%d フレーム後にデコーダーが失敗しました: %s"),
  ("Trailing bytes ignored; likely partial frame at end (%d of %d bytes)",
    "末尾のバイトを無視しました。最後のフレームが不完全な可能性があります (%d / %d バイト)"),
  ("Failed to write preview: %s", "プレビューの書き込みに失敗しました: %s"),
  ("Converting %s to %dx%d at %g fps", "%s を %dx%d, %g fps に変換中"),
  ("Converting %s (%s) to %dx%d at %g fps", "%s (%s) を %dx%d, %g fps に変換中"),
  ("Start offset %s is beyond the end of the input (%s)", "開始位置 %s が入力の長さ (%s) を超えています"),
  ("ffmpeg not found in PATH. Please install ffmpeg.",
    "PATH に ffmpeg が見つかりません。ffmpeg をインストールしてください。"),
  ("Failed to open %s: %s", "%s を開けませんでした: %s"),
  ("ffmpeg exited with code %d", "ffmpeg が終了コード %d で終了しました"),
  ("No frames were produced; the input may be shorter than one frame.",
    "フレームが生成されませんでした。入力が 1 フレームより短い可能性があります。"),
  ("Interrupted, shutting down...", "中断されました。シャットダウン中..."),
  ("Conversion failed: %s", "変換に失敗しました: %s"),
  ("Done. Frames: %d. Manifest: %s", "完了しました。フレーム数: %d, マニフェスト: %s"),
  ("Mean quantization error: %.2f", "平均量子化誤差: %.2f"),
  ("Processed %d frames...", "%d フレームを処理しました..."),
  ("Listening on %s", "%s で待機中"),
  ("Converting %s to %s", "%s を %s に変換中"),
  ("Conversion of %s failed: %s", "%s の変換に失敗しました: %s"),
  ("Client disconnected: %s", "クライアントが切断されました: %s"),
  ("Failed to encode packet %d: %s", "パケット %d のエンコードに失敗しました: %s"),
  ("Failed to unmarshal control message: %s", "制御メッセージの解析に失敗しました: %s"),
  ("State inconsistency, expected converting", "状態の不整合: 変換中であるはずです"),
  ("%s: mean error %.2f", "%s: 平均誤差 %.2f"),
  ("Failed to process %s: %s", "%s の処理に失敗しました: %s")]

/-- The lexicon of a language code. -/
def ofLanguage (language : String) : List (String × String) :=
  if language == "ja" then japanese else []

/-- The template that stands for another in a language. -/
def templateIn (language template : String) : String :=
  ((ofLanguage language).lookup template).getD template

end Lexicon

end BlitReel
