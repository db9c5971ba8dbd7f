/-! The page that shows the description of the interface in a browser. -/

namespace ProductCatalog.Http

def documentationPage : String :=
  "\n".intercalate [
    "<!DOCTYPE html>",
    "<html lang=\"en\">",
    "<head>",
    "    <meta charset=\"UTF-8\">",
    "    <meta name=\"viewport\" content=\"width=device-width, initial-scale=1.0\">",
    "    <title>Catalog API Documentation</title>",
    "    <link rel=\"stylesheet\" type=\"text/css\" " ++
      "href=\"https://unpkg.com/swagger-ui-dist@5/swagger-ui.css\">",
    "</head>",
    "<body>",
    "    <div id=\"swagger-ui\"></div>",
    "    <script src=\"https://unpkg.com/swagger-ui-dist@5/swagger-ui-bundle.js\"></script>",
    "    <script>",
    "        window.onload = () => \x7b",
    "            window.ui = SwaggerUIBundle(\x7b",
    "                url: \"/api/openapi.json\",",
    "                dom_id: '#swagger-ui',",
    "                deepLinking: true",
    "            \x7d);",
    "        \x7d;",
    "    </script>",
    "</body>",
    "</html>"]

end ProductCatalog.Http
