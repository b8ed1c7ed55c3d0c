import Gatehouse.Text.Ascii

/-!
# Media types of files

The media type of a file is guessed from the extension of its name, in any
case of letters. A name without an extension, or with one that is not in
the table, is `application/octet-stream`.
-/

namespace Gatehouse.Http

open Text

/-- Media types by extension. -/
def mediaTypes : List (String × String) := [
  ("txt", "text/plain"),
  ("text", "text/plain"),
  ("log", "text/plain"),
  ("conf", "text/plain"),
  ("ini", "text/plain"),
  ("html", "text/html"),
  ("htm", "text/html"),
  ("shtml", "text/html"),
  ("xhtml", "application/xhtml+xml"),
  ("css", "text/css"),
  ("csv", "text/csv"),
  ("tsv", "text/tab-separated-values"),
  ("js", "text/javascript"),
  ("mjs", "text/javascript"),
  ("json", "application/json"),
  ("jsonld", "application/ld+json"),
  ("map", "application/json"),
  ("webmanifest", "application/manifest+json"),
  ("xml", "text/xml"),
  ("xsl", "text/xml"),
  ("rss", "application/rss+xml"),
  ("atom", "application/atom+xml"),
  ("md", "text/markdown"),
  ("markdown", "text/markdown"),
  ("ics", "text/calendar"),
  ("vcf", "text/x-vcard"),
  ("rtf", "application/rtf"),
  ("toml", "text/x-toml"),
  ("yaml", "text/x-yaml"),
  ("yml", "text/x-yaml"),
  ("c", "text/plain"),
  ("h", "text/plain"),
  ("cpp", "text/plain"),
  ("java", "text/plain"),
  ("py", "text/plain"),
  ("rs", "text/x-rust"),
  ("sh", "application/x-sh"),
  ("png", "image/png"),
  ("jpg", "image/jpeg"),
  ("jpeg", "image/jpeg"),
  ("jpe", "image/jpeg"),
  ("gif", "image/gif"),
  ("bmp", "image/bmp"),
  ("webp", "image/webp"),
  ("avif", "image/avif"),
  ("svg", "image/svg+xml"),
  ("svgz", "image/svg+xml"),
  ("ico", "image/x-icon"),
  ("tif", "image/tiff"),
  ("tiff", "image/tiff"),
  ("heic", "image/heic"),
  ("psd", "image/vnd.adobe.photoshop"),
  ("mp3", "audio/mpeg"),
  ("m4a", "audio/m4a"),
  ("aac", "audio/aac"),
  ("oga", "audio/ogg"),
  ("ogg", "audio/ogg"),
  ("opus", "audio/ogg"),
  ("wav", "audio/wav"),
  ("flac", "audio/flac"),
  ("mid", "audio/midi"),
  ("midi", "audio/midi"),
  ("mp4", "video/mp4"),
  ("m4v", "video/x-m4v"),
  ("mpg", "video/mpeg"),
  ("mpeg", "video/mpeg"),
  ("ogv", "video/ogg"),
  ("webm", "video/webm"),
  ("mov", "video/quicktime"),
  ("avi", "video/x-msvideo"),
  ("wmv", "video/x-ms-wmv"),
  ("flv", "video/x-flv"),
  ("mkv", "video/x-matroska"),
  ("woff", "font/woff"),
  ("woff2", "font/woff2"),
  ("ttf", "font/ttf"),
  ("otf", "font/otf"),
  ("eot", "application/vnd.ms-fontobject"),
  ("pdf", "application/pdf"),
  ("ps", "application/postscript"),
  ("eps", "application/postscript"),
  ("zip", "application/zip"),
  ("gz", "application/gzip"),
  ("tgz", "application/gzip"),
  ("tar", "application/x-tar"),
  ("bz2", "application/x-bzip2"),
  ("7z", "application/x-7z-compressed"),
  ("rar", "application/x-rar-compressed"),
  ("xz", "application/x-xz"),
  ("jar", "application/java-archive"),
  ("wasm", "application/wasm"),
  ("bin", "application/octet-stream"),
  ("exe", "application/octet-stream"),
  ("dll", "application/octet-stream"),
  ("iso", "application/octet-stream"),
  ("dmg", "application/octet-stream"),
  ("deb", "application/octet-stream"),
  ("doc", "application/msword"),
  ("docx", "application/vnd.openxmlformats-officedocument.wordprocessingml.document"),
  ("xls", "application/vnd.ms-excel"),
  ("xlsx", "application/vnd.openxmlformats-officedocument.spreadsheetml.sheet"),
  ("ppt", "application/vnd.ms-powerpoint"),
  ("pptx", "application/vnd.openxmlformats-officedocument.presentationml.presentation"),
  ("odt", "application/vnd.oasis.opendocument.text"),
  ("ods", "application/vnd.oasis.opendocument.spreadsheet"),
  ("epub", "application/epub+zip"),
  ("swf", "application/x-shockwave-flash"),
  ("sql", "application/sql")]

/-- The last name of a path, trailing slashes aside. -/
def fileName (path : List Char) : List Char :=
  let trimmed := (path.reverse.dropWhile (· == '/')).reverse
  (trimmed.reverse.takeWhile (· != '/')).reverse

/-- **The extension of a file name**: what follows its last dot, unless that
dot is its first character. -/
def extension? (name : List Char) : Option (List Char) :=
  if name == ['.', '.'] then none
  else
    let ext := (name.reverse.takeWhile (· != '.')).reverse
    let stem := (name.reverse.dropWhile (· != '.')).drop 1
    if stem.isEmpty then none else some ext

/-- The media type guessed for a path. -/
def mediaType (path : String) : String :=
  match extension? (fileName path.toList) with
  | none => "application/octet-stream"
  | some ext =>
    let ext := lower (String.ofList ext)
    ((mediaTypes.find? (·.1 = ext)).map (·.2)).getD "application/octet-stream"

end Gatehouse.Http
